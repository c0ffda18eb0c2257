import HidDescriptor.Table.Enumeration

/-!
# Usages of the keyboard and keypad page
-/

namespace HidDescriptor
namespace Table
namespace Standard

/-- The keys of page 0x07. -/
def keyboard : List Directive :=
  Directive.names
      ["reserved", "keyboard_errorrollover", "keyboard_postfail", "keyboard_errorundefined",
        "keyboard_a", "keyboard_b", "keyboard_c", "keyboard_d", "keyboard_e", "keyboard_f",
        "keyboard_g", "keyboard_h", "keyboard_i", "keyboard_j", "keyboard_k", "keyboard_l",
        "keyboard_m", "keyboard_n", "keyboard_o", "keyboard_p", "keyboard_q", "keyboard_r",
        "keyboard_s", "keyboard_t", "keyboard_u", "keyboard_v", "keyboard_w", "keyboard_x",
        "keyboard_y", "keyboard_z", "keyboard_1", "keyboard_2", "keyboard_3", "keyboard_4",
        "keyboard_5", "keyboard_6", "keyboard_7", "keyboard_8", "keyboard_9", "keyboard_0",
        "keyboard_return"] ++
  [.alias "keyboard_enter"] ++
  Directive.names ["keyboard_escape", "keyboard_delete"] ++
  [.alias "keyboard_backspace"] ++
  Directive.names
      ["keyboard_tab", "keyboard_spacebar", "keyboard_minus", "keyboard_equal",
        "keyboard_leftbracket", "keyboard_rightbracket", "keyboard_backslash",
        "keyboard_non-us_hash", "keyboard_semicolon", "keyboard_quote", "keyboard_grave_accent",
        "keyboard_comma", "keyboard_dot", "keyboard_slash", "keyboard_caps_lock", "keyboard_f1",
        "keyboard_f2", "keyboard_f3", "keyboard_f4", "keyboard_f5", "keyboard_f6", "keyboard_f7",
        "keyboard_f8", "keyboard_f9", "keyboard_f10", "keyboard_f11", "keyboard_f12",
        "keyboard_printscreen", "keyboard_scroll_lock", "keyboard_pause", "keyboard_insert",
        "keyboard_home", "keyboard_pageup", "keyboard_delete_forward", "keyboard_end",
        "keyboard_pagedown", "keyboard_rightarrow", "keyboard_leftarrow", "keyboard_downarrow",
        "keyboard_uparrow", "keypad_num_lock", "keypad_div", "keypad_multiply", "keypad_minus",
        "keypad_plus", "keypad_enter", "keypad_1", "keypad_2", "keypad_3", "keypad_4", "keypad_5",
        "keypad_6", "keypad_7", "keypad_8", "keypad_9", "keypad_0", "keypad_dot",
        "keyboard_non-us_backslash", "keyboard_application", "keyboard_power", "keypad_equal",
        "keyboard_f13", "keyboard_f14", "keyboard_f15", "keyboard_f16", "keyboard_f17",
        "keyboard_f18", "keyboard_f19", "keyboard_f20", "keyboard_f21", "keyboard_f22",
        "keyboard_f23", "keyboard_f24", "keyboard_execute", "keyboard_help", "keyboard_menu",
        "keyboard_select", "keyboard_stop", "keyboard_again", "keyboard_undo", "keyboard_cut",
        "keyboard_copy", "keyboard_paste", "keyboard_find", "keyboard_mute", "keyboard_volume_up",
        "keyboard_volume_down", "keyboard_locking_caps_lock", "keyboard_locking_num_lock",
        "keyboard_locking_scroll_lock", "keypad_comma", "keypad_equal_sign",
        "keyboard_international1", "keyboard_international2", "keyboard_international3",
        "keyboard_international4", "keyboard_international5", "keyboard_international6",
        "keyboard_international7", "keyboard_international8", "keyboard_international9",
        "keyboard_lang1", "keyboard_lang2", "keyboard_lang3", "keyboard_lang4", "keyboard_lang5",
        "keyboard_lang6", "keyboard_lang7", "keyboard_lang8", "keyboard_lang9",
        "keyboard_alternate_erase", "keyboard_sysreq", "keyboard_cancel", "keyboard_clear",
        "keyboard_prior", "keyboard_return2", "keyboard_separator", "keyboard_out",
        "keyboard_oper", "keyboard_clear_again", "keyboard_crsel", "keyboard_exsel"] ++
  [.startAt 0xb0] ++
  Directive.names
      ["keypad_00", "keypad_000", "thousands_separator", "decimal_separator", "currency_unit",
        "currency_subunit", "keypad_leftparenthesis", "keypad_rightparenthesis",
        "keypad_leftbrace", "keypad_rightbrace", "keypad_tab", "keypad_backspace", "keypad_a",
        "keypad_b", "keypad_c", "keypad_d", "keypad_e", "keypad_f", "keypad_xor", "keypad_caret",
        "keypad_percent", "keypad_lessthan", "keypad_greaterthan", "keypad_ampersand",
        "keypad_double_ampersand", "keypad_pipe", "keypad_double_pipe", "keypad_colon",
        "keypad_hash", "keypad_space", "keypad_at", "keypad_exclamation", "keypad_memory_store",
        "keypad_memory_recall", "keypad_memory_clear", "keypad_memory_add",
        "keypad_memory_subtract", "keypad_memory_multiply", "keypad_memory_divide",
        "keypad_plus_minus", "keypad_clear", "keypad_clear_entry", "keypad_binary",
        "keypad_octal", "keypad_decimal", "keypad_hexadecimal"] ++
  [.startAt 0xe0] ++
  Directive.names
      ["keyboard_leftcontrol", "keyboard_leftshift", "keyboard_leftalt", "keyboard_left_gui",
        "keyboard_rightcontrol", "keyboard_rightshift", "keyboard_rightalt", "keyboard_right_gui"]

end Standard
end Table
end HidDescriptor
