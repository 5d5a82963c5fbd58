import Wallboard.Proofs.Attempt
import Wallboard.Proofs.Text.Split
import Wallboard.Proofs.Web.Percent
import Wallboard.Web.Url

/-!
The path of a URL that is resolved below a base. It is the path that was written, up to the query
or the fragment, with its dot segments taken out, and encoded; so a reader who decodes it need not
know that it was encoded.
-/
namespace Wallboard

namespace Percent

variable {keeps : Char → Bool}

theorem encode_join (slash : keeps '/' = true) (segments : List Text) :
    encode keeps (Text.join ['/'] segments) = Text.join ['/'] (segments.map (encode keeps)) := by
  induction segments with
  | nil => rfl
  | cons segment rest ih =>
      cases rest with
      | nil => rfl
      | cons next rest =>
          have kept : (isUnreserved '/' || keeps '/') = true := by rw [slash, Bool.or_true]
          have filled : (next :: rest).map (encode keeps) ≠ [] := List.cons_ne_nil _ _
          rw [Text.join_cons _ _ (List.cons_ne_nil next rest), List.map_cons,
            Text.join_cons _ _ filled, List.append_assoc, List.append_assoc, encode_append,
            List.singleton_append, List.singleton_append, encode_of_kept kept, ih]

theorem splitAt_encode (slash : keeps '/' = true) (path : Text) :
    Text.splitAt '/' (encode keeps path) = (Text.splitAt '/' path).map (encode keeps) := by
  have whole := Text.join_splitAt '/' path
  have plain : ∀ segment ∈ (Text.splitAt '/' path).map (encode keeps), '/' ∉ segment := by
    intro segment member inside
    obtain ⟨own, among, rfl⟩ := List.mem_map.mp member
    exact (Text.of_mem_splitAt among).1 (mem_of_mem_encode (by decide) (by decide) inside)
  have filled : (Text.splitAt '/' path).map (encode keeps) ≠ [] := by
    simpa using Text.splitAt_ne_nil '/' path
  calc
    _ = Text.splitAt '/' (encode keeps (Text.join ['/'] (Text.splitAt '/' path))) := by rw [whole]
    _ = Text.splitAt '/' (Text.join ['/'] ((Text.splitAt '/' path).map (encode keeps))) := by
      rw [encode_join slash]
    _ = (Text.splitAt '/' path).map (encode keeps) := Text.splitAt_join filled plain

end Percent

namespace Url

open Percent

variable {keeps : Char → Bool} {base url : Url} {text path : Text}

theorem dropDots_sublist (taken segments : List Text) :
    (dropDots taken segments).Sublist (taken.reverse ++ segments) := by
  induction segments generalizing taken with
  | nil => simp [dropDots]
  | cons segment rest ih =>
      have shorter {fewer : List Text} (part : fewer.Sublist taken) :
          (dropDots fewer rest).Sublist (taken.reverse ++ segment :: rest) :=
        (ih fewer).trans (part.reverse.append (List.sublist_cons_self segment rest))
      unfold dropDots
      split
      · exact shorter (List.Sublist.refl taken)
      split
      · split
        · exact shorter (List.Sublist.refl taken)
        · exact shorter (List.drop_sublist 1 taken)
      · simpa using ih (segment :: taken)

theorem length_normalPath_le (path : Text) : (normalPath path).length ≤ path.length := by
  have fewer := dropDots_sublist [] (Text.splitAt '/' path)
  have shorter := Text.length_join_le ['/'] fewer
  rwa [List.reverse_nil, List.nil_append, Text.join_splitAt] at shorter

theorem dropDots_encode (taken segments : List Text) :
    dropDots (taken.map (encode keeps)) (segments.map (encode keeps)) =
      (dropDots taken segments).map (encode keeps) := by
  induction segments generalizing taken with
  | nil => simp [dropDots]
  | cons segment rest ih =>
      have dot : isUnreserved '.' = true := by decide
      have one : encode keeps segment = ['.'] ↔ segment = ['.'] := encode_eq_iff (by simp [dot])
      have two : encode keeps segment = ['.', '.'] ↔ segment = ['.', '.'] :=
        encode_eq_iff (by simp [dot])
      have none (other : Text) : encode keeps other = [] ↔ other = [] := encode_eq_iff (by simp)
      have root : taken.map (encode keeps) = [[]] ↔ taken = [[]] := by
        simp [List.map_eq_singleton_iff, none]
      simp only [List.map_cons, dropDots, one, two, root]
      split
      · exact ih taken
      split
      · split
        · exact ih taken
        · rw [← List.map_drop]
          exact ih (taken.drop 1)
      · exact ih (segment :: taken)

theorem normalPath_encode (slash : keeps '/' = true) (path : Text) :
    normalPath (encode keeps path) = encode keeps (normalPath path) := by
  calc
    _ = Text.join ['/'] (dropDots [] ((Text.splitAt '/' path).map (encode keeps))) := by
      rw [normalPath, splitAt_encode slash]
    _ = Text.join ['/'] ((dropDots [] (Text.splitAt '/' path)).map (encode keeps)) :=
      congrArg _ (dropDots_encode [] _)
    _ = encode keeps (normalPath path) := (encode_join slash _).symm

def bare (text : Text) : Text := (Text.cut '?' (Text.cut '#' text).1).1

abbrev encodePath (path : Text) : Text := Percent.encode (keepsAllBut outsidePath) path

theorem parts_of_rooted {first : Char} (single : first ≠ '/') (rest : Text) :
    Parts.ofText ('/' :: first :: rest) =
      { path := bare ('/' :: first :: rest)
        query := (Text.cut '?' (Text.cut '#' ('/' :: first :: rest)).1).2
        fragment := (Text.cut '#' ('/' :: first :: rest)).2 } := by
  have scheme : splitScheme ('/' :: first :: rest) = ([], '/' :: first :: rest) := by
    have stops : isSchemeChar '/' = false := by decide
    simp [splitScheme, stops]
  have authority : splitAuthority ('/' :: first :: rest) = ([], '/' :: first :: rest) := by
    unfold splitAuthority
    split
    · rename_i shape
      exact absurd (List.cons.inj (List.cons.inj shape).2).1 single
    · rfl
  simp only [Parts.ofText, scheme, authority, bare]

/-- A rooted text names no scheme and no host, so its path is only encoded. -/
theorem ofText_rooted {first : Char} (single : first ≠ '/') {rest : Text}
    (read : ofText ('/' :: first :: rest) = .ok url) :
    url.scheme = [] ∧ url.path = encodePath (bare ('/' :: first :: rest)) := by
  obtain ⟨_, _, made⟩ := bind_eq_ok_iff.mp read
  rw [parts_of_rooted single] at made
  obtain ⟨host, named, made⟩ := bind_eq_ok_iff.mp made
  obtain ⟨socket, numbered, made⟩ := bind_eq_ok_iff.mp made
  obtain ⟨_, _, made⟩ := bind_eq_ok_iff.mp made
  obtain rfl : [] = host := Except.ok.inj named
  obtain rfl : none = socket := Except.ok.inj numbered
  rw [← Except.ok.inj made]
  exact ⟨rfl, rfl⟩

theorem path_of_ofParts {parts : Parts} (scheme : parts.scheme ≠ [])
    (made : ofParts parts = .ok url) : url.path = encodePath (normalPath parts.path) := by
  obtain ⟨host, _, made⟩ := bind_eq_ok_iff.mp made
  obtain ⟨socket, _, made⟩ := bind_eq_ok_iff.mp made
  obtain ⟨_, _, made⟩ := bind_eq_ok_iff.mp made
  have filled : (!parts.scheme.isEmpty) = true := by simpa using scheme
  rw [← Except.ok.inj made]
  simp only [filled, Bool.true_or, if_true]

theorem path_of_withTarget {target : Text} (scheme : base.scheme ≠ [])
    (made : base.withTarget target = .ok url) :
    url.path = encodePath (normalPath (Text.cut '?' target).1) := by
  obtain ⟨_, _, made⟩ := bind_eq_ok_iff.mp made
  obtain ⟨_, _, made⟩ := bind_eq_ok_iff.mp made
  obtain ⟨_, _, made⟩ := bind_eq_ok_iff.mp made
  obtain ⟨_, _, made⟩ := bind_eq_ok_iff.mp made
  obtain ⟨_, _, made⟩ := bind_eq_ok_iff.mp made
  exact path_of_ofParts scheme made

theorem bare_cons {first : Char} (plain : first ≠ '?' ∧ first ≠ '#') (rest : Text) :
    bare (first :: rest) = first :: bare rest := by
  simp only [bare, Text.cut, plain.1, plain.2, if_false]

theorem bare_isPrefix (text : Text) : bare text <+: text :=
  (Text.cut_isPrefix '?' _).trans (Text.cut_isPrefix '#' text)

theorem question_not_mem_bare (text : Text) : '?' ∉ bare text := Text.not_mem_cut '?' _

theorem hash_not_mem_bare (text : Text) : '#' ∉ bare text := by
  intro member
  exact Text.not_mem_cut '#' text ((Text.cut_isPrefix '?' _).subset member)

theorem bare_eq_self (question : '?' ∉ text) (hash : '#' ∉ text) : bare text = text := by
  rw [bare, Text.cut_eq_self_of_not_mem hash, Text.cut_eq_self_of_not_mem question]

theorem encodePath_rooted {first : Char} (single : first ≠ '/')
    (plain : first ≠ '?' ∧ first ≠ '#') (rest : Text) :
    ∃ head tail, encodePath (bare ('/' :: first :: rest)) = '/' :: head :: tail ∧ head ≠ '/' := by
  have kept : (isUnreserved '/' || keepsAllBut outsidePath '/') = true := by decide
  rw [bare_cons (by decide), bare_cons plain, encodePath, encode_of_kept kept]
  rcases encode_head (keepsAllBut outsidePath) first (bare rest) with shape | ⟨tail, shape⟩
  · exact ⟨_, _, congrArg _ shape, single⟩
  · exact ⟨_, _, congrArg _ shape, by decide⟩

theorem path_of_target (mark : '?' ∉ url.path) (filled : url.path ≠ []) :
    (Text.cut '?' url.target).1 = url.path := by
  have shape : url.target = url.path ++ ((url.query.map ('?' :: ·)).getD []) := by
    rw [target, List.isEmpty_eq_false_iff.mpr filled]
    rfl
  rw [shape, Text.cut_run mark]
  cases url.query with
  | none => simp [Text.cut]
  | some query => simp [Text.cut]

theorem path_of_resolve {first : Char} {rest : Text} (absolute : base.isAbsolute = true)
    (root : base.target = ['/']) (single : first ≠ '/') (plain : first ≠ '?' ∧ first ≠ '#')
    (resolved : base.resolve ('/' :: first :: rest) = .ok url) :
    url.path = encodePath (encodePath (normalPath (bare ('/' :: first :: rest)))) := by
  obtain ⟨relative, read, made⟩ := bind_eq_ok_iff.mp resolved
  obtain ⟨noScheme, path⟩ := ofText_rooted single read
  have scheme : base.scheme ≠ [] := by
    intro none
    simp [isAbsolute, none] at absolute
  have relation : relative.isAbsolute = false := by simp [isAbsolute, noScheme]
  rw [relation, if_neg Bool.false_ne_true, root] at made
  have mark : '?' ∉ relative.path := by
    rw [path]
    intro member
    exact question_not_mem_bare _ (mem_of_mem_encode (by decide) (by decide) member)
  obtain ⟨head, tail, shape, solid⟩ := encodePath_rooted single plain rest
  rw [← path] at shape
  have filled : relative.path ≠ [] := by
    rw [shape]
    exact List.cons_ne_nil _ _
  have target : ['/'] ++ relative.target.dropWhile (· == '/') = relative.target := by
    simp [Url.target, shape, solid]
  rw [target] at made
  rw [path_of_withTarget scheme made, path_of_target mark filled, path, encodePath,
    normalPath_encode (by decide)]

theorem decode_path_of_resolve {first : Char} {rest : Text} (absolute : base.isAbsolute = true)
    (root : base.target = ['/']) (single : first ≠ '/') (plain : first ≠ '?' ∧ first ≠ '#')
    (resolved : base.resolve ('/' :: first :: rest) = .ok url) :
    decode url.path = decode (normalPath (bare ('/' :: first :: rest))) := by
  have sign : keepsAllBut outsidePath '%' = true := by decide
  calc
    _ = decode (encodePath (encodePath (normalPath (bare ('/' :: first :: rest))))) := by
      rw [path_of_resolve absolute root single plain resolved]
    _ = decode (encodePath (normalPath (bare ('/' :: first :: rest)))) := decode_encode sign _
    _ = decode (normalPath (bare ('/' :: first :: rest))) := decode_encode sign _

end Url
end Wallboard
