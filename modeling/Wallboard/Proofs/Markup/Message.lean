import Wallboard.Proofs.Text.Quoted
import Wallboard.Registry
import Wallboard.Service.Handler

namespace Wallboard

open Text

theorem IntegerOption.printable_name (option : IntegerOption) : Printable option.name := by
  cases option <;> decide

theorem OptionFault.printable_message (fault : OptionFault) : Printable fault.message := by
  cases fault with
  | notInteger option text =>
      exact (option.printable_name.append (by decide)).append (printable_quoted text)
  | negative option value =>
      exact (option.printable_name.append (by decide)).append (Integer.printable_text value)
  | resourceMissing => decide
  | scaleUnknown text => exact Printable.append (by decide) (printable_quoted text)
  | gasMissing => decide
  | gasUnknown text => exact Printable.append (by decide) (printable_quoted text)
  | axisMissing => decide
  | axisUnknown text => exact Printable.append (by decide) (printable_quoted text)
  | divisorMissing => decide

namespace MarkupError

theorem printable_message (error : MarkupError) : Printable error.message := by
  have stop : Printable ['.'] := by decide
  cases error with
  | unterminatedTag offset =>
      exact (Printable.append (by decide) (Integer.printable_digits offset)).append stop
  | unknownElementKind kind =>
      exact (Printable.append (by decide) (printable_quoted kind)).append stop
  | invalidOption kind fault =>
      apply Printable.append _ fault.printable_message
      exact (Printable.append (by decide) (printable_quoted kind.name)).append (by decide)

theorem message_ne_nil (error : MarkupError) : error.message ≠ [] := by
  cases error with
  | unterminatedTag offset => exact nofun
  | unknownElementKind kind => exact nofun
  | invalidOption kind fault => exact nofun

theorem printable_name (error : MarkupError) : Printable error.name := by
  have unterminated : Printable "UnterminatedTag".toList := by decide
  have unknown : Printable "UnknownElementKind".toList := by decide
  have invalid : Printable "InvalidOption".toList := by decide
  cases error with
  | unterminatedTag offset => exact unterminated
  | unknownElementKind kind => exact unknown
  | invalidOption kind fault => exact invalid

theorem oneLine_message (error : MarkupError) : OneLine error.message :=
  error.printable_message.oneLine error.message_ne_nil

end MarkupError

theorem Log.printable_withContext {line : Text} {context : List (Text × Text)}
    (start : Printable line)
    (entries : ∀ entry ∈ context, Printable entry.1 ∧ Printable entry.2) :
    Printable (Log.withContext line context) := by
  unfold withContext
  split
  · exact start
  · apply (start.append (by decide)).append
    apply Printable.join (by decide)
    intro piece member
    obtain ⟨entry, listed, rfl⟩ := List.mem_map.mp member
    obtain ⟨name, value⟩ := entries entry listed
    exact name.append (.cons (by decide) value)

theorem Log.withContext_ne_nil {line : Text} (filled : line ≠ [])
    (context : List (Text × Text)) : Log.withContext line context ≠ [] := by
  unfold withContext
  split
  · exact filled
  · exact List.append_ne_nil_of_left_ne_nil (List.append_ne_nil_of_left_ne_nil filled _) _

namespace Notice

variable {error : MarkupError} {device reason : Text}

theorem printable_errorContext (error : MarkupError) :
    ∀ entry ∈ errorContext error, Printable entry.1 ∧ Printable entry.2 := by
  have named : Printable "error".toList := by decide
  have reasoned : Printable "reason".toList := by decide
  intro entry member
  rcases List.mem_cons.mp member with rfl | member
  · exact ⟨named, error.printable_name⟩
  · obtain rfl := List.mem_singleton.mp member
    exact ⟨reasoned, error.printable_message⟩

theorem oneLine_templateRejected (error : MarkupError) :
    OneLine (Notice.templateRejected error).line := by
  have start : Printable (Log.Level.debug.name ++ ' ' :: "services.parser".toList ++
      ' ' :: "Template rejected".toList) := by decide
  have offset : Printable "offset".toList := by decide
  have entries : ∀ entry ∈ (Notice.templateRejected error).context,
      Printable entry.1 ∧ Printable entry.2 := by
    apply List.forall_mem_append.mpr ⟨printable_errorContext error, _⟩
    intro entry member
    obtain ⟨found, _, rfl⟩ := Option.map_eq_some_iff.mp (Option.mem_toList.mp member)
    exact ⟨offset, Integer.printable_digits found⟩
  apply (Log.printable_withContext start entries).oneLine
  exact Log.withContext_ne_nil (by decide) _

theorem mem_errorContext_reason :
    ("reason".toList, reason) ∈ errorContext error ↔ reason = error.message := by
  have differ : "reason".toList ≠ "error".toList := by decide
  rw [errorContext, List.mem_cons, List.mem_singleton, Prod.mk.injEq, Prod.mk.injEq]
  constructor
  · rintro (⟨wrong, _⟩ | ⟨_, same⟩)
    · exact absurd wrong differ
    · exact same
  · intro same
    exact .inr ⟨rfl, same⟩

theorem mem_context_templateRejected :
    ("reason".toList, reason) ∈ (templateRejected error).context ↔ reason = error.message := by
  have differ : "offset".toList ≠ "reason".toList := by decide
  rw [context, List.mem_append, mem_errorContext_reason]
  apply or_iff_left
  intro member
  obtain ⟨_, _, same⟩ := Option.map_eq_some_iff.mp (Option.mem_toList.mp member)
  exact differ (Prod.mk.inj same).1

theorem mem_context_templateFailed :
    ("reason".toList, reason) ∈ (templateFailed device error).context ↔
      reason = error.message := by
  have differ : "reason".toList ≠ "device_id".toList := by decide
  rw [context, List.mem_cons, mem_errorContext_reason]
  apply or_iff_right
  intro same
  exact differ (Prod.mk.inj same).1

end Notice

namespace Template

/-- The message of markup that does not compile is one printable line, and it is what stands for the
markup on a panel, in an answer and in the log. -/
structure RejectedOnOneLine (markup : Text) (error : MarkupError) : Prop where
  message : OneLine error.message
  shown : ∀ snapshot, ((Template.invalid error).evaluate snapshot).text = error.message
  answered : ∀ snapshot, ∃ members,
    Service.render markup snapshot = { status := 200, content := .json (.object members) } ∧
      Json.member? "valid".toList members = some (.bool false) ∧
      Json.member? "text".toList members = some (.string error.message) ∧
      Json.member? "error".toList members = some (.string error.name)
  reports : ∃ notice ∈ (Template.invalid error).notices,
    ("reason".toList, error.message) ∈ notice.context
  reported : ∀ notice ∈ (Template.invalid error).notices, OneLine notice.line
  logs : ∀ device known, ∃ notice ∈ Registry.bindNotices device known (.invalid error),
    notice.reporter = "services.registry".toList ∧
      ("reason".toList, error.message) ∈ notice.context
  logged : ∀ device known, ∀ notice ∈ Registry.bindNotices device known (.invalid error),
    ∀ reason, ("reason".toList, reason) ∈ notice.context ↔ reason = error.message

/-- Whatever stands in a tag, the message of its error is a single line of printable characters. -/
theorem rejected_on_one_line {markup : Text} {error : MarkupError}
    (rejected : Template.compile markup = .ok (.invalid error)) :
    RejectedOnOneLine markup error := by
  constructor
  case message => exact error.oneLine_message
  case shown => exact fun _ => rfl
  case answered =>
    intro snapshot
    have answer : Service.render markup snapshot =
        .ofJson (Service.renderingView false error.message (.string error.name)) := by
      simp only [Service.render, rejected]
    exact ⟨_, answer, rfl, rfl, rfl⟩
  case reports =>
    exact ⟨_, List.mem_cons_self, Notice.mem_context_templateRejected.mpr rfl⟩
  case reported =>
    exact List.forall_mem_singleton.mpr (Notice.oneLine_templateRejected error)
  case logs =>
    intro device known
    exact ⟨.templateFailed device error, List.mem_cons_of_mem _ List.mem_cons_self, rfl,
      Notice.mem_context_templateFailed.mpr rfl⟩
  case logged =>
    intro device known notice member reason
    rcases List.mem_cons.mp member with rfl | member
    · exact Notice.mem_context_templateRejected
    · obtain rfl := List.mem_singleton.mp member
      exact Notice.mem_context_templateFailed

/-- An escape character and the separators of Unicode in the argument of a tag. -/
theorem rejected_with_separators_quoted :
    let markup : Text := "<gas:a\u2028b\u2029\x1bc\n>".toList
    let error : MarkupError := .invalidOption .gas (.gasUnknown "a\u2028b\u2029\x1bc".toList)
    Template.compile markup = .ok (.invalid error) ∧
      error.message =
        "Invalid option for 'gas': unknown gas kind 'a\\u2028b\\u2029\\x1bc'".toList ∧
      RejectedOnOneLine markup error := by
  intro markup error
  have rejected : Template.compile markup = .ok (.invalid error) := rfl
  exact ⟨rejected, by decide +kernel, rejected_on_one_line rejected⟩

end Template
end Wallboard
