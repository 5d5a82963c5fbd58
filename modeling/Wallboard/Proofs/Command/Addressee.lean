import Wallboard.Command.Plan
import Wallboard.Proofs.Web.Url
import Wallboard.Service.Message
import Wallboard.Service.Route

/-!
Which device the service hears of when a panel is stored. The name of the device goes into the path
of a URL as it is, so parts of it may be taken for the rest of a URL.
-/
namespace Wallboard.Command

open Percent Service

/-- What the service reads as the path when the panel of a device is stored. -/
def storingPath (device : Text) : Text :=
  decode (decode (Url.normalPath (Url.bare (panelsFolder ++ device))))

def addressee? (device : Text) : Option Text := deviceOf? (storingPath device)

/-- A name that is one segment of a path and means itself there. -/
structure PathSafe (device : Text) : Prop where
  filled : device ≠ []
  slash : '/' ∉ device
  question : '?' ∉ device
  hash : '#' ∉ device
  dot : device ≠ ['.']
  dots : device ≠ ['.', '.']
  unescaped : holdsEscape device = false

variable {device path : Text}

theorem panelsFolder_eq : panelsFolder = ['/', 'p', 'a', 'n', 'e', 'l', 's', '/'] := by
  decide +kernel

theorem deviceOf?_eq_some_iff :
    deviceOf? path = some device ↔
      path = panelsFolder ++ device ∧ device ≠ [] ∧ '/' ∉ device := by
  unfold deviceOf?
  dsimp only
  constructor
  · intro found
    split at found
    · rename_i below
      obtain rfl := Option.some.inj found
      simp only [Text.startsWith, Bool.and_eq_true, List.isPrefixOf_iff_prefix,
        Bool.not_eq_true', List.contains_eq_mem, decide_eq_false_iff_not] at below
      obtain ⟨⟨lead, filled⟩, slash⟩ := below
      exact ⟨(List.prefix_iff_eq_append.mp lead).symm, by simpa using filled, slash⟩
    · cases found
  · rintro ⟨rfl, filled, slash⟩
    have below : (Text.startsWith (panelsFolder ++ device) panelsFolder && !device.isEmpty &&
        !device.contains '/') = true := by
      simp [Text.startsWith, filled, slash]
    rw [List.drop_left, if_pos below]

theorem holdsEscape_panelsFolder (device : Text) :
    holdsEscape (panelsFolder ++ device) = holdsEscape device := by
  rw [panelsFolder_eq]
  simp [holdsEscape, startsEscape]

theorem normalPath_of_segment (slash : '/' ∉ device) (dot : device ≠ ['.'])
    (dots : device ≠ ['.', '.']) :
    Url.normalPath (panelsFolder ++ device) = panelsFolder ++ device := by
  have segments : Text.splitAt '/' (panelsFolder ++ device) =
      [[], ['p', 'a', 'n', 'e', 'l', 's'], device] := by
    rw [panelsFolder_eq]
    simp [Text.splitAt, Text.splitAt_eq_self_of_not_mem slash]
  rw [Url.normalPath, segments, panelsFolder_eq]
  simp [Url.dropDots, dot, dots, Text.join]

theorem PathSafe.storingPath (safe : PathSafe device) :
    storingPath device = panelsFolder ++ device := by
  have unescaped : holdsEscape (panelsFolder ++ device) = false := by
    rw [holdsEscape_panelsFolder, safe.unescaped]
  have question : '?' ∉ panelsFolder ++ device := by
    simpa [panelsFolder_eq] using safe.question
  have hash : '#' ∉ panelsFolder ++ device := by
    simpa [panelsFolder_eq] using safe.hash
  rw [Command.storingPath, Url.bare_eq_self question hash,
    normalPath_of_segment safe.slash safe.dot safe.dots, decode_of_unescaped unescaped,
    decode_of_unescaped unescaped]

/-- If the service reads the name that was written, nothing on the way has changed the path: no step
makes it longer, and one that takes something out of it makes it shorter. -/
theorem unchanged_of_storingPath (same : storingPath device = panelsFolder ++ device) :
    Url.bare (panelsFolder ++ device) = panelsFolder ++ device ∧
      Url.normalPath (panelsFolder ++ device) = panelsFolder ++ device ∧
      holdsEscape (panelsFolder ++ device) = false := by
  have cut := Url.bare_isPrefix (panelsFolder ++ device)
  have kept : (panelsFolder ++ device).length ≤
      (decode (Url.normalPath (Url.bare (panelsFolder ++ device)))).length := by
    calc
      (panelsFolder ++ device).length = (storingPath device).length := by rw [same]
      _ ≤ _ := length_decode_le _
  have whole : Url.bare (panelsFolder ++ device) = panelsFolder ++ device := by
    apply cut.eq_of_length (Nat.le_antisymm cut.length_le _)
    calc
      _ ≤ (decode (Url.normalPath (Url.bare (panelsFolder ++ device)))).length := kept
      _ ≤ (Url.normalPath (Url.bare (panelsFolder ++ device))).length := length_decode_le _
      _ ≤ (Url.bare (panelsFolder ++ device)).length := Url.length_normalPath_le _
  rw [whole] at kept
  have plain : holdsEscape (Url.normalPath (panelsFolder ++ device)) = false :=
    unescaped_of_length (Nat.le_trans (Url.length_normalPath_le _) kept)
  rw [storingPath, whole, decode_of_unescaped plain, decode_of_unescaped plain] at same
  rw [same] at plain
  exact ⟨whole, same, plain⟩

theorem addressee?_eq_self_iff : addressee? device = some device ↔ PathSafe device := by
  unfold addressee?
  rw [deviceOf?_eq_some_iff]
  constructor
  · rintro ⟨same, filled, slash⟩
    obtain ⟨whole, normal, unescaped⟩ := unchanged_of_storingPath same
    have question := Url.question_not_mem_bare (panelsFolder ++ device)
    have hash := Url.hash_not_mem_bare (panelsFolder ++ device)
    rw [whole] at question hash
    exact
      { filled
        slash
        question := fun member => question (List.mem_append_right _ member)
        hash := fun member => hash (List.mem_append_right _ member)
        dot := by
          rintro rfl
          revert normal
          decide
        dots := by
          rintro rfl
          revert normal
          decide
        unescaped := by rwa [holdsEscape_panelsFolder] at unescaped }
  · intro safe
    exact ⟨safe.storingPath, safe.filled, safe.slash⟩

example : addressee? "b/../a%41?c".toList = some ['a', 'A'] := by decide +kernel

theorem addressee?_of_resolve {base url : Url} {method body stored : Text}
    (absolute : base.isAbsolute = true) (root : base.target = ['/'])
    (resolved : base.resolve (panelsFolder ++ device) = .ok url)
    (named : deviceOf? (Request.ofUrl method url body).path = some stored) :
    addressee? device = some stored := by
  have path : decode url.path = decode (Url.normalPath (Url.bare (panelsFolder ++ device))) := by
    rw [panelsFolder_eq] at resolved ⊢
    exact Url.decode_path_of_resolve absolute root (by decide) (by decide) resolved
  unfold Request.ofUrl at named
  dsimp only at named
  split at named
  · have nameless : deviceOf? (decode (decode ['/'])) = none := by decide +kernel
    rw [nameless] at named
    cases named
  · rwa [path] at named

end Wallboard.Command
