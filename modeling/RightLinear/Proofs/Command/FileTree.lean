import RightLinear.Command.FileTree
import RightLinear.Proofs.Results
import RightLinear.Proofs.Text.Tokens

/-! # Finding what was written

A path leads through folders. Writing a file leaves all folders where they are, so
the path by which the file was written leads to it afterwards, and what stands there
is what was written. All other files stay.
-/

namespace RightLinear

/-- A path that does not end in a slash ends in the last of its segments that is not
empty. -/
theorem PathName.segments_eq_append {path : PathName} (named : path.text ≠ "")
    (noSlash : path.text.toList.getLast? ≠ some '/') {last : String} {before : List String}
    (split : path.segments.reverse.dropWhile (· == "") = last :: before) :
    path.segments = before.reverse ++ [last] := by
  have filled : path.text.toList ≠ [] := fun empty => named (String.toList_eq_nil_iff.1 empty)
  have isLast := List.getLast?_eq_some_getLast filled
  have lastPiece : (Text.pieces (· == '/') path.text.toList).getLast? ≠ some [] :=
    Text.getLast?_pieces_ne_nil isLast (beq_false_of_ne fun same => noSlash (same ▸ isLast))
  have lastSegment : path.segments.getLast? ≠ some "" := by
    rw [segments, List.getLast?_map]
    intro empty
    obtain ⟨piece, found, isEmpty⟩ := Option.map_eq_some_iff.1 empty
    have noChars : piece = [] := by simpa using congrArg String.toList isEmpty
    exact lastPiece (noChars ▸ found)
  rw [← List.head?_reverse] at lastSegment
  cases reversed : path.segments.reverse with
  | nil => simp [reversed] at split
  | cons first others =>
      have counts : (first == "") = false :=
        beq_false_of_ne fun same => lastSegment (by rw [reversed, same]; rfl)
      rw [reversed, List.dropWhile_cons_of_neg (by simp [counts])] at split
      rw [← List.reverse_reverse path.segments, reversed, split, List.reverse_cons]

theorem PathName.fileName?_eq_some {path : PathName} {before : List String} {last : String}
    (split : path.segments = before ++ [last]) (counts : isIdle last = false)
    (noDots : last ≠ "..") : path.fileName? = some last := by
  have filled : last ≠ "" := by
    intro empty
    simp [isIdle, empty] at counts
  have noDot : last ≠ "." := by
    intro dot
    simp [isIdle, dot] at counts
  have isLast : path.names.getLast? = some last := by
    cases before with
    | nil => simp [names, split, filled]
    | cons first before => simp [names, split, counts]
  simp [fileName?, isLast, noDot, noDots]

namespace Command.FileTree

variable {tree : FileTree} {place target other next goal : Place}

/-- A folder stands at a place. -/
def HasFolder (tree : FileTree) (place : Place) : Prop :=
  ∃ entries, tree.subtree? place = some (.folder entries)

theorem requireFolder_eq_ok_iff {result : Unit} :
    tree.requireFolder place = .ok result ↔ tree.HasFolder place := by
  unfold requireFolder HasFolder
  split
  · next none => simp [none]
  · next content found => simp [found]
  · next entries found => simp [found]

theorem enter_eq_ok_iff {name : String} :
    tree.enter place name = .ok next ↔
      tree.HasFolder place ∧ name.utf8ByteSize ≤ longestName ∧ neighbour place name = next := by
  simp only [enter, bind_eq_ok_iff, requireFolder_eq_ok_iff]
  by_cases long : longestName < name.utf8ByteSize
  · simp [long, throw, throwThe, MonadExceptOf.throw, Functor.map, Except.map, Nat.not_le.2 long]
  · simp [long, pure, Except.pure, Nat.not_lt.1 long]

theorem walk_append_singleton (tree : FileTree) (place : Place) (names : List String)
    (last : String) :
    tree.walk place (names ++ [last]) =
      (tree.walk place names >>= fun parent => tree.enter parent last) := by
  simp [walk, List.foldlM_append]

theorem subtree?_append (tree : FileTree) (first second : Place) :
    tree.subtree? (first ++ second) = (tree.subtree? first).bind (·.subtree? second) := by
  induction first generalizing tree with
  | nil => cases tree <;> rfl
  | cons name first induction =>
      cases tree with
      | file content => rfl
      | folder entries =>
          rw [List.cons_append, subtree?, subtree?]
          cases entries.lookup name with
          | none => rfl
          | some inner => exact induction inner

theorem HasFolder.content?_eq_none {before after : Place}
    (folder : tree.HasFolder (before ++ after)) :
    tree.content? before = none := by
  obtain ⟨entries, found⟩ := folder
  rw [subtree?_append] at found
  obtain ⟨inner, standing, below⟩ := Option.bind_eq_some_iff.1 found
  cases inner with
  | file content =>
      cases after with
      | nil => simp [subtree?] at below
      | cons name after => simp [subtree?] at below
  | folder inside => simp [content?, standing]

theorem HasFolder.clear (folder : tree.HasFolder place) {name : String} :
    ∀ before next after, place ++ [name] = before ++ next :: after →
      tree.content? before = none := by
  intro before next after same
  rcases List.append_eq_append_iff.1 same with ⟨rest, rfl, lastAlone⟩ | ⟨rest, rfl, _⟩
  · have none : rest = [] := by
      cases rest with
      | nil => rfl
      | cons head rest => simp at lastAlone
    have here : tree.HasFolder (place ++ []) := by rwa [List.append_nil]
    rw [none, List.append_nil]
    exact here.content?_eq_none
  · exact folder.content?_eq_none

theorem HasFolder.put {content : ByteArray} (folder : tree.HasFolder place)
    (replaces : ¬ tree.HasFolder target) : (tree.put target (.file content)).HasFolder place := by
  obtain ⟨entries, found⟩ := folder
  induction target generalizing tree place with
  | nil =>
      cases tree with
      | file old => cases place <;> simp [subtree?] at found
      | folder entries => exact absurd ⟨entries, rfl⟩ replaces
  | cons name names induction =>
      cases tree with
      | file old => exact ⟨entries, found⟩
      | folder inside =>
          cases place with
          | nil => exact ⟨_, rfl⟩
          | cons first rest =>
              rw [FileTree.put, HasFolder, subtree?, lookup_putEntry]
              by_cases same : first = name
              · subst same
                rw [subtree?] at found
                cases inner : inside.lookup first with
                | none => simp [inner] at found
                | some old =>
                    rw [inner] at found
                    have inReplaces : ¬ old.HasFolder names := by
                      simpa [HasFolder, subtree?, inner] using replaces
                    rw [if_pos rfl]
                    exact induction inReplaces found
              · rw [if_neg same]
                exact ⟨entries, found⟩

theorem walk_put {content : ByteArray} {names : List String}
    (reached : tree.walk place names = .ok goal) (replaces : ¬ tree.HasFolder target) :
    (tree.put target (.file content)).walk place names = .ok goal := by
  induction names generalizing place with
  | nil => exact reached
  | cons name names induction =>
      rw [walk, List.foldlM_cons, bind_eq_ok_iff] at reached ⊢
      obtain ⟨next, entered, later⟩ := reached
      obtain ⟨folder, short, rfl⟩ := enter_eq_ok_iff.1 entered
      exact ⟨_, enter_eq_ok_iff.2 ⟨folder.put replaces, short, rfl⟩, induction later⟩

/-- Where a path leads to when a file is written by it: into a folder, to a name that
names no folder. -/
structure Leads (tree : FileTree) (working : Place) (path : PathName) (parent : Place)
    (before : List String) (last : String) : Prop where
  accepted : accept path = .ok ()
  segments : path.segments = before ++ [last]
  named : path.fileName? = some last
  walked : tree.walk (base working path) before = .ok parent
  entered : tree.enter parent last = .ok (parent ++ [last])
  replaces : ¬ tree.HasFolder (parent ++ [last])

theorem text_ne_empty_of_accept {path : PathName} (accepted : accept path = .ok ()) :
    path.text ≠ "" := by
  intro empty
  simp [accept, empty] at accepted

theorem neighbour_eq_append {name : String} (counts : PathName.isIdle name = false)
    (noDots : name ≠ "..") : neighbour place name = place ++ [name] := by
  simp [neighbour, counts, noDots]

theorem exists_leads_of_outputPlace {working : Place} {path : PathName}
    (found : tree.outputPlace working path = .ok target) :
    ∃ parent before last, tree.Leads working path parent before last ∧
      target = parent ++ [last] := by
  unfold outputPlace at found
  obtain ⟨⟨⟩, accepted, found⟩ := bind_eq_ok_iff.1 found
  split at found
  · exact nomatch found
  · next last before split =>
      obtain ⟨parent, walked, found⟩ := bind_eq_ok_iff.1 found
      obtain ⟨⟨⟩, isFolder, found⟩ := bind_eq_ok_iff.1 found
      split at found
      · exact nomatch found
      · next plain =>
          obtain ⟨place, entered, found⟩ := bind_eq_ok_iff.1 found
          have allowed := not_or.1 plain
          have noDots := (not_or.1 allowed.2).1
          -- Empty segments at the end were dropped and dots have been refused.
          have counts : PathName.isIdle last = false := by
            have kept := List.head?_dropWhile_not (· == "") path.segments.reverse
            simpa [split, PathName.isIdle, allowed.1] using kept
          have segments := PathName.segments_eq_append (text_ne_empty_of_accept accepted)
            (not_or.1 allowed.2).2 split
          have place_eq := (enter_eq_ok_iff.1 entered).2.2
          rw [neighbour_eq_append counts noDots] at place_eq
          subst place_eq
          split at found
          · exact nomatch found
          · next notFolder =>
              cases found
              exact ⟨parent, before.reverse, last, {
                accepted
                segments
                named := PathName.fileName?_eq_some segments counts noDots
                walked
                entered
                replaces := fun ⟨entries, found⟩ => notFolder entries found }, rfl⟩

theorem Leads.walk_put {working : Place} {path : PathName} {parent : Place}
    {before : List String} {last : String} (leads : tree.Leads working path parent before last)
    (content : ByteArray) :
    (tree.put (parent ++ [last]) (.file content)).walk (base working path) path.segments =
        .ok (parent ++ [last]) ∧
      (tree.put (parent ++ [last]) (.file content)).subtree? (parent ++ [last]) =
        some (.file content) := by
  obtain ⟨folder, short, place_eq⟩ := enter_eq_ok_iff.1 leads.entered
  constructor
  · rw [leads.segments, walk_append_singleton, FileTree.walk_put leads.walked leads.replaces]
    exact enter_eq_ok_iff.2 ⟨folder.put leads.replaces, short, place_eq⟩
  · exact subtree?_put folder.clear

theorem find_put_of_outputPlace {working : Place} {path : PathName}
    (found : tree.outputPlace working path = .ok target) (content : ByteArray) :
    (tree.put target (.file content)).find working path = .ok (.file content) := by
  obtain ⟨parent, before, last, leads, rfl⟩ := exists_leads_of_outputPlace found
  obtain ⟨reached, standing⟩ := leads.walk_put content
  rw [find, bind_eq_ok_iff]
  refine ⟨(), leads.accepted, ?_⟩
  rw [bind_eq_ok_iff]
  refine ⟨_, reached, ?_⟩
  rw [standing]
  rfl

theorem content?_below_eq_none (noFolder : ¬ tree.HasFolder place) (name : String)
    (names : Place) : tree.content? (place ++ name :: names) = none := by
  have below : tree.subtree? (place ++ name :: names) = none := by
    rw [subtree?_append]
    cases found : tree.subtree? place with
    | none => rfl
    | some inner =>
        cases inner with
        | file content => rfl
        | folder entries => exact absurd ⟨entries, found⟩ noFolder
  simp [content?, below]

theorem content?_put_empty (tree : FileTree) (place : Place) :
    (tree.put place empty).content? place = none := by
  induction place generalizing tree with
  | nil => cases tree <;> rfl
  | cons name names induction =>
      cases tree with
      | file content => rfl
      | folder entries =>
          rw [FileTree.put, content?_folder_cons, lookup_putEntry, if_pos rfl, Option.getD_some]
          exact induction _

theorem content?_ensureFolder (tree : FileTree) (place other : Place) :
    (tree.ensureFolder place).1.content? other = tree.content? other := by
  unfold ensureFolder
  split
  · next absent =>
      by_cases here : other = place
      · subst here
        rw [content?_put_empty]
        simp [content?, absent]
      · have noFolder : ¬ tree.HasFolder place := by
          rintro ⟨entries, found⟩
          simp [absent] at found
        exact content?_put_of_ne (content?_below_eq_none noFolder)
          (fun name names => content?_empty (name :: names)) here
  · rfl
  · rfl

/-- Making folders leaves all files, even where it fails on the way. -/
theorem content?_ensureFolders (tree : FileTree) (start : Place) (names : List String)
    (other : Place) : (tree.ensureFolders start names).1.content? other = tree.content? other := by
  induction names with
  | nil => rfl
  | cons last before induction =>
      unfold ensureFolders
      split
      · exact content?_ensureFolder tree _ other
      · split
        · next made fault failed => rwa [failed] at induction
        · next made parent reached =>
            rw [reached] at induction
            split
            · exact induction
            · exact (content?_ensureFolder made _ other).trans induction
      · rfl

theorem content?_makeFolder (tree : FileTree) (working : Place) (path : PathName)
    (other : Place) : (tree.makeFolder working path).1.content? other = tree.content? other := by
  have kept := content?_ensureFolders tree (base working path) path.names.reverse other
  unfold makeFolder
  split
  · rfl
  · split
    · next made fault failed => rwa [failed] at kept
    · next made place reached => rwa [reached] at kept

/-- What writing a file leaves: the content where the path leads to, and all other files
as they were. -/
theorem placed_of_outputPlace {working : Place} {path : PathName}
    (found : tree.outputPlace working path = .ok target) (content : ByteArray) :
    (tree.put target (.file content)).walk (base working path) path.segments = .ok target ∧
      (tree.put target (.file content)).content? target = some content ∧
      ∀ other, other ≠ target →
        (tree.put target (.file content)).content? other = tree.content? other := by
  obtain ⟨parent, before, last, leads, rfl⟩ := exists_leads_of_outputPlace found
  obtain ⟨reached, standing⟩ := leads.walk_put content
  refine ⟨reached, ?_, fun other different => ?_⟩
  · simp [content?, standing]
  · exact content?_put_of_ne (content?_below_eq_none leads.replaces) (fun _ _ => rfl) different

/-- Writing a file leaves the files at all places that end in another name. -/
theorem content?_put_of_outputPlace {working : Place} {path : PathName} {name : String}
    (found : tree.outputPlace working path = .ok target) (another : path.fileName? ≠ some name)
    (content : ByteArray) (place : Place) :
    (tree.put target (.file content)).content? (place ++ [name]) =
      tree.content? (place ++ [name]) := by
  obtain ⟨_, _, others⟩ := placed_of_outputPlace found content
  obtain ⟨parent, before, last, leads, rfl⟩ := exists_leads_of_outputPlace found
  apply others
  intro same
  have names := List.append_inj_right' same rfl
  exact another (leads.named.trans (by simpa using names.symm))

theorem putEntry_putEntry (name : String) (first second : FileTree)
    (entries : List (String × FileTree)) :
    putEntry name second (putEntry name first entries) = putEntry name second entries := by
  induction entries with
  | nil => simp [putEntry]
  | cons entry entries induction =>
      by_cases here : entry.1 = name
      · simp [putEntry, here]
      · simp [putEntry, here, induction]

theorem put_put (tree : FileTree) (place : Place) (first second : FileTree) :
    (tree.put place first).put place second = tree.put place second := by
  induction place generalizing tree with
  | nil => cases first <;> cases tree <;> rfl
  | cons name names induction =>
      cases tree with
      | file content => rfl
      | folder entries =>
          rw [FileTree.put, FileTree.put, FileTree.put, lookup_putEntry, if_pos rfl,
            Option.getD_some, induction, putEntry_putEntry]

end Command.FileTree
end RightLinear
