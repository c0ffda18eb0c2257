import HidDescriptor.Proofs.LineLocal
import HidDescriptor.Proofs.Limits
import HidDescriptor.Proofs.Trimming

/-!
# Places of compile errors

A compile error is found without a place, and the line on which it was found becomes its place.

- `Fault.Bare`, `Unplaced`: faults without a place, and computations with no other faults
- `Function.unplaced_call`, `ItemState.unplaced_answer`: a call knows nothing of its line
- `SourceLine.Stripped`: a line without the line ends behind it
- `Session.located_of_feedAll`: the compile error of a line names this line
-/

namespace HidDescriptor

/-! ## Faults without a place -/

namespace Fault

/-- A compile error that has no line number yet. No other fault ever has one. -/
def Bare : Fault → Prop
  | compile d => d.number = none
  | _ => True

theorem bare_ofCause (cause : Cause) : (ofCause cause).Bare := by
  unfold ofCause
  split
  · rfl
  · trivial

/-- The first place that a compile error is given is the one it keeps. -/
theorem Bare.locate {fault : Fault} {number : Int} {line : String} {d : Diagnostic}
    (h : fault.Bare) (hd : fault.locate number line = .compile d) :
    d.number = some number ∧ d.line = some line := by
  cases fault with
  | compile found =>
      have hnone : found.number = none := h
      have hfound : found.locate (some number) (some line) = d := by
        simpa [Fault.locate] using hd
      rw [← hfound, Diagnostic.locate, hnone]
      exact ⟨rfl, rfl⟩
  | _ =>
      cases hd

end Fault

/-- No fault of a computation has a place. -/
def Unplaced {α : Type} (x : Except Fault α) : Prop :=
  ∀ fault, x = .error fault → fault.Bare

namespace Unplaced

variable {α β : Type} {x : Except Fault α} {k : α → Except Fault β} {f : α → β}

theorem ok (a : α) : Unplaced (.ok a : Except Fault α) := by
  intro fault h
  cases h

theorem ofCause (cause : Cause) : Unplaced (.error (.ofCause cause) : Except Fault α) := by
  intro fault h
  cases h
  exact Fault.bare_ofCause cause

theorem bind (hx : Unplaced x) (hk : ∀ a, Unplaced (k a)) : Unplaced (x >>= k) := by
  intro fault h
  rcases bind_eq_error_iff.1 h with h | ⟨a, _, h⟩
  · exact hx fault h
  · exact hk a fault h

theorem map (hx : Unplaced x) : Unplaced (x.map f) := by
  intro fault h
  exact hx fault (map_eq_error_iff.1 h)

theorem mapM {g : α → Except Fault β} (hg : ∀ a, Unplaced (g a)) (as : List α) :
    Unplaced (as.mapM g) := by
  induction as with
  | nil =>
      exact ok []
  | cons a rest ih =>
      have hrest (b : β) : Unplaced (rest.mapM g >>= fun bs => pure (b :: bs)) :=
        ih.bind fun bs => ok (b :: bs)
      rw [List.mapM_cons]
      exact (hg a).bind hrest

end Unplaced

/-! ## Arguments and values -/

theorem Literal.unplaced_read (token : String) : Unplaced (read token) := by
  intro fault h
  rcases read_eq_error_iff.1 h with ⟨_, _, _, _, _, _, _, _, rfl⟩
  trivial

namespace Payload

theorem unplaced_encode (value : Int) (signed : Bool) : Unplaced (encode value none signed) := by
  intro fault h
  have hfault := (encode_eq_error_iff.1 h).2
  rw [hfault]
  exact Fault.bare_ofCause _

theorem unplaced_resolve (table : Option Table) (token : String) :
    Unplaced (resolve table token none) := by
  refine (Literal.unplaced_read token).bind fun literal => ?_
  cases literal with
  | some value =>
      exact (unplaced_encode value false).map
  | none =>
      simp only
      split
      · exact (unplaced_encode _ false).map
      · exact .ok none

end Payload

namespace Function

theorem unplaced_oneArgument (name : String) (args : List String) :
    Unplaced (oneArgument name args) := by
  unfold oneArgument
  split
  · exact .ok _
  · exact .ofCause _

theorem unplaced_symbol (name : String) (table : Table) (arg : String) :
    Unplaced (symbol name table arg) := by
  refine (Payload.unplaced_resolve (some table) arg).bind fun found => ?_
  cases found with
  | some payload =>
      exact .ok payload
  | none =>
      exact .ofCause _

/-! ## Calls -/

theorem unplaced_callUsagePage (tables : Tables) (name : String) (args : List String) :
    Unplaced (callUsagePage tables name args) := by
  refine (unplaced_oneArgument name args).bind fun page => ?_
  exact (unplaced_symbol name tables.usagePages page).bind fun _ => .ok _

theorem unplaced_callCollection (tables : Tables) (name : String) (args : List String) :
    Unplaced (callCollection tables name args) := by
  refine (unplaced_oneArgument name args).bind fun kind => ?_
  exact (unplaced_symbol name tables.collections kind).bind fun _ => .ok _

theorem unplaced_callEndCollection (name : String) (args : List String) :
    Unplaced (callEndCollection name args) := by
  unfold callEndCollection
  split
  · exact .ok _
  · exact .ofCause _

theorem unplaced_callUsage {state : ItemState} {page : Option String} (tables : Tables)
    (name : String) (args : List String) (h : state.globals = ItemState.pageGlobals page) :
    Unplaced (callUsage state tables name args) := by
  have htable : Unplaced (usageTable state tables name) := by
    rw [usageTable_eq tables name h]
    split
    · exact .ok _
    · exact .ofCause _
    · exact .ofCause _
  refine (unplaced_oneArgument name args).bind fun arg => ?_
  refine htable.bind fun table => ?_
  exact (unplaced_symbol name table arg).bind fun _ => .ok _

/-- The functions of a numeric argument differ in what they do with its value. -/
theorem unplaced_read_bind {name : String} {args : List String}
    {k : String → Option Int → Except Fault Outcome} (hk : ∀ arg value, Unplaced (k arg value)) :
    Unplaced (oneArgument name args >>= fun arg => Literal.read arg >>= k arg) := by
  refine (unplaced_oneArgument name args).bind fun arg => ?_
  exact (Literal.unplaced_read arg).bind (hk arg)

theorem unplaced_callNumber (name : String) (args : List String) :
    Unplaced (callNumber name args) := by
  refine unplaced_read_bind fun arg literal => ?_
  cases literal with
  | none =>
      exact .ofCause _
  | some value =>
      exact (Payload.unplaced_encode value true).map

theorem unplaced_callCount (name : String) (args : List String) :
    Unplaced (callCount name args) := by
  refine unplaced_read_bind fun arg literal => ?_
  cases literal with
  | none =>
      exact .ofCause _
  | some value =>
      simp only
      split
      · exact .ofCause _
      · exact (Payload.unplaced_encode value false).map

theorem unplaced_callReportId (name : String) (args : List String) :
    Unplaced (callReportId name args) := by
  refine unplaced_read_bind fun arg literal => ?_
  cases literal with
  | none =>
      exact .ofCause _
  | some value =>
      simp only
      split
      · exact .ok _
      · exact .ofCause _

theorem unplaced_callFlags (tables : Tables) (name : String) (args : List String) :
    Unplaced (callFlags tables name args) := by
  unfold callFlags
  split
  · exact (Payload.unplaced_encode _ false).map
  · exact .ofCause _

/-- A function does not know on which line it is called. -/
theorem unplaced_call (f : Function) {state : ItemState} {page : Option String} (tables : Tables)
    (args : List String) (h : state.globals = ItemState.pageGlobals page) :
    Unplaced (f.call state tables args) := by
  cases f with
  | usagePage =>
      exact unplaced_callUsagePage tables _ args
  | collection =>
      exact unplaced_callCollection tables _ args
  | endCollection =>
      exact unplaced_callEndCollection _ args
  | usage | usageMinimum | usageMaximum =>
      exact unplaced_callUsage tables _ args h
  | logicalMinimum | logicalMaximum | physicalMinimum | physicalMaximum =>
      exact unplaced_callNumber _ args
  | reportSize | reportCount =>
      exact unplaced_callCount _ args
  | reportId =>
      exact unplaced_callReportId _ args
  | input | output | feature =>
      exact unplaced_callFlags tables _ args

theorem unplaced_advance (f : Function) (args : List String) (state : ItemState) :
    Unplaced (f.advance args state) := by
  have hclose : Unplaced state.closeScope := by
    unfold ItemState.closeScope
    split
    · exact .ofCause _
    · exact .ok _
  unfold advance
  split
  · exact .ok _
  · exact .ok _
  · exact hclose.map
  · exact .ok _

end Function

theorem ItemState.unplaced_answer {state : ItemState} {page : Option String} (tables : Tables)
    (c : Call) (number : Int) (h : state.globals = pageGlobals page) :
    Unplaced (state.answer tables c number) := by
  unfold answer
  split
  · exact .ofCause _
  next f _ =>
    refine (f.unplaced_call tables c.args h).bind fun outcome => ?_
    exact (f.unplaced_advance c.args state).bind fun _ => .ok _

/-! ## Lines -/

namespace SourceLine

theorem unplaced_contentOf (cs : List Char) : Unplaced (contentOf cs) := by
  have hargument (piece : List Char) : Unplaced (Call.argument piece) := by
    unfold Call.argument
    simp only
    split
    · exact .ofCause _
    · exact .ok _
  have harguments (body : List Char) : Unplaced (Call.arguments body) := by
    unfold Call.arguments
    split
    · exact .ok _
    · exact .mapM hargument _
  unfold contentOf
  split
  · exact .ok _
  · split
    · exact .ok _
    · split
      · exact .ofCause _
      next body _ =>
        exact (harguments body).bind fun _ => .ok _

/-- A line is what is left of a text when all line ends at its end are cut off. -/
def Stripped (text line : String) : Prop :=
  ∃ ends, text.toList = line.toList ++ ends ∧ (∀ c ∈ ends, c = '\n' ∨ c = '\r') ∧
    ∀ c, line.toList.getLast? = some c → c ≠ '\n' ∧ c ≠ '\r'

theorem stripped_dropEndWhile (text : String) :
    Stripped text (String.ofList (Text.dropEndWhile isLineEnd text.toList)) := by
  rcases Text.exists_dropEndWhile_append isLineEnd text.toList with ⟨ends, happend, hends⟩
  refine ⟨ends, ?_, ?_, ?_⟩
  · rw [String.toList_ofList]
    exact happend
  · intro c hc
    simpa [isLineEnd] using hends c hc
  · intro c hc
    rw [String.toList_ofList] at hc
    have hnot : isLineEnd c = false := Text.getLast?_dropEndWhile hc
    simpa [isLineEnd] using hnot

end SourceLine

/-! ## Sessions -/

namespace Session

/-- A compile error of a call has the place of its line. -/
theorem located_of_call {s : Session} {page : Option String} {c : Call} {number : Int}
    {text : String} {d : Diagnostic} (hpage : s.state.globals = ItemState.pageGlobals page)
    (h : (s.call c number text).2 = .error (.compile d)) :
    d.number = some number ∧ d.line = some text := by
  have hanswer := ItemState.unplaced_answer s.tables c number hpage
  rcases s.call_cases c number text with ⟨fault, hfault, ⟨_, hcall⟩ | hcall⟩ | ⟨_, _, _, hcall⟩
  · have hbare : fault.Bare := hanswer fault hfault
    rw [hcall] at h
    exact hbare.locate (Except.error.inj h)
  · have hbare : fault.Bare := hanswer fault hfault
    rw [hcall, stop_snd] at h
    exact hbare.locate (Except.error.inj h)
  · rw [hcall] at h
    split at h
    · cases h
    · cases h

theorem located_of_feed {s : Session} {page : Option String} {line : SourceLine} {d : Diagnostic}
    (hphase : s.phase = .scanning) (hpage : s.state.globals = ItemState.pageGlobals page)
    (h : (s.feed line).2 = .error (.compile d)) :
    d.number = some line.number ∧ d.line = some line.text := by
  unfold feed at h
  rw [hphase] at h
  cases hc : line.content with
  | call c =>
      rw [hc] at h
      exact located_of_call hpage h
  | _ =>
      rw [hc] at h
      cases h

/-- A compile error of a line, whether it cannot be parsed or its call is rejected, has the place
of this line. -/
theorem located_of_feedAll {s s' : Session} {page : Option String} {number : Int} {text : String}
    {d : Diagnostic} (hphase : s.phase = .scanning)
    (hpage : s.state.globals = ItemState.pageGlobals page)
    (h : s.feedAll number [text] = (s', .error (.compile d))) :
    d.number = some number ∧ ∃ line, d.line = some line ∧ SourceLine.Stripped text line := by
  have hstripped := SourceLine.stripped_dropEndWhile text
  -- The line is quoted as it is read, whether reading it fails or carrying it out does.
  suffices hplace : d.number = some number ∧
      d.line = some (String.ofList (Text.dropEndWhile SourceLine.isLineEnd text.toList)) by
    exact ⟨hplace.1, _, hplace.2, hstripped⟩
  rw [feedAll] at h
  unfold SourceLine.parse at h
  simp only at h
  cases hcontent : SourceLine.contentOf (Text.dropEndWhile SourceLine.isLineEnd text.toList) with
  | error fault =>
      have hbare : fault.Bare := SourceLine.unplaced_contentOf _ fault hcontent
      rw [hcontent] at h
      exact hbare.locate (Except.error.inj (congrArg Prod.snd h))
  | ok content =>
      rw [hcontent] at h
      simp only at h
      split at h
      next s₁ fault hfeed =>
        cases h
        exact located_of_feed hphase hpage (congrArg Prod.snd hfeed)
      next =>
        cases h

end Session
end HidDescriptor
