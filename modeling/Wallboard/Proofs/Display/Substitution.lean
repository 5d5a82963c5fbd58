import Wallboard.Display.Template
import Wallboard.Proofs.Markup.Compile
import Wallboard.Proofs.Text.Split

namespace Wallboard

namespace Display

variable {snapshot : Snapshot} {first : Element} {rest : List Element}

theorem elements_cons_eq_ok_iff {text : Text} :
    elements snapshot (first :: rest) = .ok text ↔
      ∃ shown tail, element snapshot first = .ok shown ∧ elements snapshot rest = .ok tail ∧
        shown ++ tail = text := by
  rw [elements]
  cases element snapshot first with
  | error fault => simp
  | ok shown => cases elements snapshot rest <;> simp [Except.map]

theorem elements_cons_eq_error_iff {failing : Element} {fault : DisplayFault} :
    elements snapshot (first :: rest) = .error (failing, fault) ↔
      (first = failing ∧ element snapshot first = .error fault) ∨
        ∃ shown, element snapshot first = .ok shown ∧
          elements snapshot rest = .error (failing, fault) := by
  rw [elements]
  cases element snapshot first with
  | error fault => simp
  | ok shown => cases elements snapshot rest <;> simp [Except.map]

end Display

namespace Tag

def shown? (snapshot : Snapshot) (body : Text) : Option Text :=
  match build body with
  | .ok element => (Display.element snapshot element).toOption
  | .error _ => none

def fault? (snapshot : Snapshot) (body : Text) : Option DisplayFault :=
  match build body with
  | .ok element =>
      match Display.element snapshot element with
      | .ok _ => none
      | .error fault => some fault
  | .error _ => none

variable {snapshot : Snapshot} {body : Text} {element : Element}

theorem shown?_of_displayed {text : Text} (built : build body = .ok element)
    (displayed : Display.element snapshot element = .ok text) :
    shown? snapshot body = some text ∧ fault? snapshot body = none := by
  constructor
  · rw [shown?, built]
    exact congrArg Except.toOption displayed
  · simp only [fault?, built, displayed]

theorem fault?_of_failed {fault : DisplayFault} (built : build body = .ok element)
    (failed : Display.element snapshot element = .error fault) :
    fault? snapshot body = some fault := by
  simp only [fault?, built, failed]

end Tag

namespace Markup

structure FirstTag where
  before : Text
  body : Text
  after : Text

def firstTag? (markup : Text) : Option FirstTag :=
  match Text.cut '<' markup with
  | (_, none) => none
  | (before, some opened) =>
      match Text.cut '>' opened with
      | (_, none) => none
      | (body, some after) => some ⟨before, body, after⟩

theorem firstTag?_eq_some {markup : Text} {first : FirstTag}
    (found : firstTag? markup = some first) :
    markup = first.before ++ '<' :: first.body ++ '>' :: first.after := by
  unfold firstTag? at found
  split at found
  · cases found
  · rename_i before opened cutOpen
    split at found
    · cases found
    · rename_i body after cutClose
      obtain rfl : FirstTag.mk before body after = first := Option.some.inj found
      have opens := Text.cut_eq_some (congrArg Prod.snd cutOpen)
      have closes := Text.cut_eq_some (congrArg Prod.snd cutClose)
      rw [cutOpen] at opens
      rw [cutClose] at closes
      rw [opens, closes]
      simp

theorem length_after_lt {markup : Text} {first : FirstTag}
    (found : firstTag? markup = some first) : first.after.length < markup.length := by
  rw [firstTag?_eq_some found, List.length_append, List.length_cons]
  omega

def tags (markup : Text) : List Text :=
  match _found : firstTag? markup with
  | none => []
  | some first => first.body :: tags first.after
termination_by markup.length
decreasing_by exact length_after_lt _found

/-- The markup with each tag replaced by what it shows, unless some tag shows nothing. -/
def substituted? (snapshot : Snapshot) (markup : Text) : Option Text :=
  match _found : firstTag? markup with
  | none => if '<' ∈ markup then none else some markup
  | some first => do
      let shown ← Tag.shown? snapshot first.body
      let rest ← substituted? snapshot first.after
      some (first.before ++ shown ++ rest)
termination_by markup.length
decreasing_by exact length_after_lt _found

theorem firstTag?_tag {body : Text} (inside : '>' ∉ body) (rest : Text) :
    firstTag? ('<' :: body ++ '>' :: rest) = some ⟨[], body, rest⟩ := by
  have opened : Text.cut '<' ('<' :: body ++ '>' :: rest) = ([], some (body ++ '>' :: rest)) := rfl
  have closed : Text.cut '>' (body ++ '>' :: rest) = (body, some rest) :=
    Text.cut_append inside rest
  simp only [firstTag?, opened, closed]

theorem firstTag?_run {run : Text} (plain : '<' ∉ run) (rest : Text) :
    firstTag? (run ++ rest) =
      (firstTag? rest).map fun first => { first with before := run ++ first.before } := by
  simp only [firstTag?, Text.cut_run plain]
  rcases Text.cut '<' rest with ⟨before, _ | opened⟩
  · rfl
  · dsimp only
    rcases Text.cut '>' opened with ⟨body, _ | after⟩ <;> rfl

theorem tags_of_none {markup : Text} (untagged : firstTag? markup = none) : tags markup = [] := by
  rw [tags]
  split
  · rfl
  · rename_i found
    rw [untagged] at found
    cases found

theorem tags_of_some {markup : Text} {first : FirstTag} (tagged : firstTag? markup = some first) :
    tags markup = first.body :: tags first.after := by
  rw [tags]
  split
  · rename_i missing
    rw [tagged] at missing
    cases missing
  · rename_i found
    rw [tagged] at found
    cases found
    rfl

variable {snapshot : Snapshot}

theorem substituted?_of_none {markup : Text} (untagged : firstTag? markup = none) :
    substituted? snapshot markup = if '<' ∈ markup then none else some markup := by
  rw [substituted?]
  split
  · rfl
  · rename_i found
    rw [untagged] at found
    cases found

theorem substituted?_of_some {markup : Text} {first : FirstTag}
    (tagged : firstTag? markup = some first) :
    substituted? snapshot markup =
      (Tag.shown? snapshot first.body).bind fun shown =>
        (substituted? snapshot first.after).map fun rest => first.before ++ shown ++ rest := by
  rw [substituted?]
  split
  · rename_i missing
    rw [tagged] at missing
    cases missing
  · rename_i found
    rw [tagged] at found
    cases found
    cases Tag.shown? snapshot first.body with
    | none => rfl
    | some shown => cases substituted? snapshot first.after <;> rfl

theorem tags_tag {body : Text} (inside : '>' ∉ body) (rest : Text) :
    tags ('<' :: body ++ '>' :: rest) = body :: tags rest :=
  tags_of_some (firstTag?_tag inside rest)

theorem tags_run {run : Text} (plain : '<' ∉ run) (rest : Text) :
    tags (run ++ rest) = tags rest := by
  have seen := firstTag?_run plain rest
  cases found : firstTag? rest with
  | none =>
      rw [found] at seen
      rw [tags_of_none seen, tags_of_none found]
  | some first =>
      rw [found] at seen
      rw [tags_of_some seen, tags_of_some found]

theorem substituted?_tag {body shown text rest : Text} (inside : '>' ∉ body)
    (head : Tag.shown? snapshot body = some shown)
    (tail : substituted? snapshot rest = some text) :
    substituted? snapshot ('<' :: body ++ '>' :: rest) = some (shown ++ text) := by
  rw [substituted?_of_some (firstTag?_tag inside rest)]
  simp [head, tail]

theorem substituted?_run {run text rest : Text} (plain : '<' ∉ run)
    (tail : substituted? snapshot rest = some text) :
    substituted? snapshot (run ++ rest) = some (run ++ text) := by
  have seen := firstTag?_run plain rest
  cases found : firstTag? rest with
  | none =>
      rw [found] at seen
      rw [substituted?_of_none found] at tail
      rw [substituted?_of_none seen]
      split at tail
      · cases tail
      · rename_i untagged
        obtain rfl : rest = text := Option.some.inj tail
        simp [plain, untagged]
  | some first =>
      rw [found] at seen
      rw [substituted?_of_some found] at tail
      rw [substituted?_of_some seen]
      obtain ⟨shown, head, tail⟩ := Option.bind_eq_some_iff.mp tail
      obtain ⟨after, next, rfl⟩ := Option.map_eq_some_iff.mp tail
      simp [head, next]

theorem substituted?_of_displayed {pieces : Pieces} {elements : List Element} {text : Text}
    (proper : pieces.Proper) (built : pieces.elements = .ok elements)
    (displayed : Display.elements snapshot elements = .ok text) :
    (tags pieces.text).findSome? (Tag.fault? snapshot) = none ∧
      substituted? snapshot pieces.text = some text := by
  induction pieces generalizing elements text with
  | nil =>
      obtain rfl : [] = elements := Except.ok.inj built
      obtain rfl : [] = text := Except.ok.inj displayed
      have untagged : firstTag? [] = none := rfl
      rw [Pieces.text_nil, tags_of_none untagged, substituted?_of_none untagged]
      exact ⟨rfl, rfl⟩
  | cons piece rest ih =>
      obtain ⟨element, others, made, later, rfl⟩ := Pieces.elements_cons_eq_ok_iff.mp built
      obtain ⟨shown, tail, head, remaining, rfl⟩ := Display.elements_cons_eq_ok_iff.mp displayed
      obtain ⟨sound, substituted⟩ := ih proper.tail later remaining
      have own := proper.each piece List.mem_cons_self
      rcases piece with ⟨kind, body⟩
      cases kind with
      | literal =>
          obtain rfl : .literal body = element := Except.ok.inj made
          obtain rfl : body = shown := Except.ok.inj head
          rw [Pieces.text_cons_literal, tags_run own.2]
          exact ⟨sound, substituted?_run own.2 substituted⟩
      | tag =>
          obtain ⟨found, faultless⟩ := Tag.shown?_of_displayed made head
          rw [Pieces.text_cons_tag, tags_tag own, List.findSome?_cons, faultless]
          exact ⟨sound, substituted?_tag own found substituted⟩

theorem fault?_of_not_displayed {pieces : Pieces} {elements : List Element} {element : Element}
    {fault : DisplayFault} (proper : pieces.Proper)
    (built : pieces.elements = .ok elements)
    (failed : Display.elements snapshot elements = .error (element, fault)) :
    (tags pieces.text).findSome? (Tag.fault? snapshot) = some fault := by
  induction pieces generalizing elements with
  | nil =>
      obtain rfl : [] = elements := Except.ok.inj built
      cases failed
  | cons piece rest ih =>
      obtain ⟨first, others, made, later, rfl⟩ := Pieces.elements_cons_eq_ok_iff.mp built
      have own := proper.each piece List.mem_cons_self
      rw [Display.elements_cons_eq_error_iff] at failed
      rcases piece with ⟨kind, body⟩
      cases kind with
      | literal =>
          obtain rfl : .literal body = first := Except.ok.inj made
          rw [Pieces.text_cons_literal, tags_run own.2]
          rcases failed with ⟨_, impossible⟩ | ⟨_, _, failed⟩
          · cases impossible
          · exact ih proper.tail later failed
      | tag =>
          rw [Pieces.text_cons_tag, tags_tag own, List.findSome?_cons]
          rcases failed with ⟨rfl, failed⟩ | ⟨shown, head, failed⟩
          · rw [Tag.fault?_of_failed made failed]
          · rw [(Tag.shown?_of_displayed made head).2]
            exact ih proper.tail later failed

end Markup

namespace Template

/-- A valid template shows its markup with each tag replaced by what that tag shows. If some tag
shows nothing, the template shows why the leftmost of these does not, and nothing else. -/
theorem evaluate_eq_substituted {markup : Text} {elements : List Element}
    (valid : compile markup = .ok (.valid elements)) (snapshot : Snapshot) :
    match (Markup.tags markup).findSome? (Tag.fault? snapshot) with
    | none =>
        Markup.substituted? snapshot markup = some (evaluate (.valid elements) snapshot).text
    | some fault =>
        (evaluate (.valid elements) snapshot).text = "Template error: ".toList ++ fault.message := by
  obtain ⟨pieces, proper, rfl, built⟩ := compile_eq_valid_iff.mp valid
  cases displayed : Display.elements snapshot elements with
  | ok text =>
      obtain ⟨faultless, substituted⟩ :=
        Markup.substituted?_of_displayed proper built displayed
      simp only [faultless, substituted, evaluate, evaluateElements, displayed]
  | error failure =>
      rcases failure with ⟨element, fault⟩
      have leftmost := Markup.fault?_of_not_displayed proper built displayed
      rw [leftmost, evaluate, evaluateElements, displayed]
      rfl

/-- A `>` outside of a tag and a `<` inside one, a tag of a later line, and two tags that show
nothing for different reasons. -/
theorem shown_with_and_without_fault :
    let snapshot : Snapshot := { quantities := [("x<".toList, 5250)] }
    let sound := "a>b\n<item:x<,3,k>|<gas:h2>".toList
    let soundElements : List Element :=
      [.literal "a>b\n".toList, .itemCount "x<".toList (some 3) .thousands, .literal ['|'],
        .gas .hydrogen none .absolute]
    let failing := "a<mass>b<gps:X,,999999999999999999>c<mass:dry,9223372036854775808>".toList
    let failingElements : List Element :=
      [.literal ['a'], .mass none false, .literal ['b'],
        .coordinate .x none 999999999999999999, .literal ['c'],
        .mass (some 9223372036854775808) true]
    compile sound = .ok (.valid soundElements) ∧
      Markup.substituted? snapshot sound = some "a>b\n  5K|-".toList ∧
      (evaluate (.valid soundElements) snapshot).text = "a>b\n  5K|-".toList ∧
      compile failing = .ok (.valid failingElements) ∧
      (evaluate (.valid failingElements) snapshot).text =
        "Template error: valid range for prec is [1, MAX_PREC]".toList := by
  intro snapshot sound soundElements failing failingElements
  have compiled : compile sound = .ok (.valid soundElements) := by decide +kernel
  have alsoCompiled : compile failing = .ok (.valid failingElements) := by decide +kernel
  have faultless : (Markup.tags sound).findSome? (Tag.fault? snapshot) = none := by
    decide +kernel
  have leftmost : (Markup.tags failing).findSome? (Tag.fault? snapshot) =
      some .precisionTooLarge := by
    decide +kernel
  have substituted : Markup.substituted? snapshot sound = some "a>b\n  5K|-".toList := by
    decide +kernel
  have same := evaluate_eq_substituted compiled snapshot
  have diagnosis := evaluate_eq_substituted alsoCompiled snapshot
  rw [faultless] at same
  rw [leftmost] at diagnosis
  exact ⟨compiled, substituted, Option.some.inj (same.symm.trans substituted), alsoCompiled,
    diagnosis⟩

end Template
end Wallboard
