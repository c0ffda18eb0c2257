import HidDescriptor.Table.Enumeration

/-!
# Usages of the LED page
-/

namespace HidDescriptor
namespace Table
namespace Standard

/-- The indicators of page 0x08. -/
def led : List Directive :=
  [.startAt 0x01] ++
  Directive.names
      ["num_lock", "caps_lock", "scroll_lock", "compose", "kana", "power", "shift",
        "do_not_disturb", "mute", "tone_enable", "high_cut_filter", "low_cut_filter",
        "equalizer_enable", "sound_field_on", "surround_on", "repeat", "stereo",
        "sampling_rate_detect", "spinning", "cav", "clv", "recording_format_detect", "off_hook",
        "ring", "message_waiting", "data_mode", "battery_operation", "battery_ok", "battery_low",
        "speaker", "headset", "hold", "microphone", "coverage", "night_mode", "send_calls",
        "call_pickup", "conference", "stand_by", "camera_on", "camera_off", "on_line", "off_line",
        "busy", "ready", "paper_out", "paper_jam", "remote", "forward", "reverse", "stop",
        "rewind", "fast_forward", "play", "pause", "record", "error", "usage_selected_indicator",
        "usage_in_use_indicator", "usage_multi_mode_indicator", "indicator_on", "indicator_flash",
        "indicator_slow_blink", "indicator_fast_blink", "indicator_off", "flash_on_time",
        "slow_blink_on_time", "slow_blink_off_time", "fast_blink_on_time", "fast_blink_off_time",
        "usage_indicator_color", "indicator_red", "indicator_green", "indicator_amber",
        "generic_indicator", "system_suspend", "external_power_connected", "indicator_blue",
        "indicator_orange", "good_status", "warning_status", "rgb_led", "red_led_channel",
        "blue_led_channel", "green_led_channel", "led_intensity", "system_microphone_mute"] ++
  [.startAt 0x60] ++
  Directive.names
      ["player_indicator", "player_1", "player_2", "player_3", "player_4", "player_5", "player_6",
        "player_7", "player_8"]

end Standard
end Table
end HidDescriptor
