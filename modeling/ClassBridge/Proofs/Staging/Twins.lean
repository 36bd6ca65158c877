import ClassBridge.Proofs.FileSystem.Outcomes
import ClassBridge.Proofs.Staging.Session

/-!
# Two staging directories

What happens in a staging directory depends on what is in it, and not on its name or on what stands
beside it.  So two staging directories of one output directory, in two file systems, with the same
things in them (`Twin`) go on having the same things in them: a file that can be staged in the first
can be staged in the second (`Twin.stage`), and what can be read in the first can be read in the
second (`Twin.read`).

**Names.**  The names of the two directories may differ.  The second one may not be longer than the
first, since paths have a limit (`StandsFor`).

**Opening.**  In an output directory that is there a second session can begin where a first one
ended (`createNamed_again`), and as long as nothing is staged the two directories are twins
(`Twin.begin`).

**Outcomes.**  A step of the second follows the first where that one ends well, and where it leads
to nothing, because then directories are created above (`Carries`).  Nothing is said of other
failures, so limits and permissions need not agree.
-/

namespace ClassBridge.Staging

open ClassBridge.Path FileSystem

/-! ## Outcomes that carry over -/

section Carries

variable {α α' β β' : Type} {R : α → α' → Prop} {S : β → β' → Prop} {x : Except FileError α}
  {y : Except FileError α'}

/-- What the first comes to the second comes to, and so it is if the first leads to nothing. -/
structure Carries (R : α → α' → Prop) (x : Except FileError α) (y : Except FileError α') :
    Prop where
  ok : ∀ a, x = .ok a → ∃ b, y = .ok b ∧ R a b
  notFound : x = .error .notFound → y = .error .notFound

lemma carries_ok {a : α} {b : α'} (h : R a b) : Carries R (.ok a) (.ok b) where
  ok a' ha := by
    cases ha
    exact ⟨b, rfl, h⟩
  notFound hnone := by cases hnone

lemma carries_refused {e : FileError} (h : e ≠ .notFound) : Carries R (.error e) y where
  ok a ha := by cases ha
  notFound hnone := absurd (Except.error.inj hnone) h

lemma carries_notFound : Carries R (.error .notFound) (.error .notFound) where
  ok a ha := by cases ha
  notFound _ := rfl

/-- One step after the other. -/
lemma Carries.bind {f : α → Except FileError β} {g : α' → Except FileError β'} (h : Carries R x y)
    (hfg : ∀ a b, R a b → Carries S (f a) (g b)) : Carries S (x >>= f) (y >>= g) := by
  cases hx : x with
  | ok a =>
      obtain ⟨b, hy, hab⟩ := h.ok a hx
      rw [hy]
      exact hfg a b hab
  | error e =>
      by_cases he : e = .notFound
      · rw [he] at hx ⊢
        rw [h.notFound hx]
        exact carries_notFound
      · exact carries_refused he

end Carries

/-! ## Twins -/

/-- A name that may stand in every path where the other one stands. -/
structure StandsFor (name' name : String) : Prop where
  shorter : name'.utf8ByteSize ≤ name.utf8ByteSize
  noNul : '\x00' ∉ name'.toList

/-- Two directories in one output directory that have the same things in them.  Without the second
one its file system is one that stays the same. -/
structure Twin (root : String) (out : Location) (name name' : String) (kept fs fs' : FileSystem) :
    Prop where
  plain : IsEntryName name
  plain' : IsEntryName name'
  standsFor : StandsFor name' name
  reaches : fs.Reaches root out
  reaches' : fs'.Reaches root out
  current : fs'.current = fs.current
  here : fs.nodeAt? (out ++ [name]) = some .directory
  nodes : ∀ inside, fs'.nodeAt? (out ++ name' :: inside) = fs.nodeAt? (out ++ name :: inside)
  kept : fs'.removeTree (out ++ [name']) = kept

/-- The same place in both directories. -/
def SamePlace (out : Location) (name name' : String) (location location' : Location) : Prop :=
  ∃ inside, location = out ++ name :: inside ∧ location' = out ++ name' :: inside

/-- Paths that lead to the same place in both directories. -/
inductive SameTarget (out : Location) (name name' : String) : Target → Target → Prop
  | entry {directory directory' : Location} {last last' : String} (inside : Location) :
      directory ++ [last] = out ++ name :: inside → directory' ++ [last'] = out ++ name' :: inside →
      SameTarget out name name' (.entry directory last) (.entry directory' last')
  | directory {location location' : Location} :
      SameTarget out name name' (.directory location) (.directory location')

namespace Twin

variable {root name name' : String} {out : Location} {kept fs fs' fs₁ : FileSystem}

/-! ## Walks -/

lemma enter_inside (h : Twin root out name name' kept fs fs') {step : String} (hdown : step ≠ "..")
    {location location' : Location} (hplace : SamePlace out name name' location location') :
    Carries (SamePlace out name name') (fs.enter location step) (fs'.enter location' step) := by
  obtain ⟨inside, rfl, rfl⟩ := hplace
  unfold enter
  by_cases hhere : step = "."
  · rw [if_pos hhere, if_pos hhere]
    exact carries_ok ⟨inside, rfl, rfl⟩
  · rw [if_neg hhere, if_neg hdown, if_neg hhere, if_neg hdown]
    by_cases hlimit : nameLimit < step.utf8ByteSize
    · rw [if_pos hlimit]
      exact carries_refused (by decide)
    · rw [if_neg hlimit, if_neg hlimit, List.append_assoc, List.append_assoc, List.cons_append,
        List.cons_append, h.nodes]
      cases fs.nodeAt? (out ++ name :: (inside ++ [step])) with
      | none => exact carries_notFound
      | some node =>
          cases node with
          | file content => exact carries_refused (by decide)
          | directory => exact carries_ok ⟨inside ++ [step], rfl, rfl⟩

lemma walk_inside (h : Twin root out name name' kept fs fs') {path : List String}
    (hdown : ".." ∉ path) {location location' : Location}
    (hplace : SamePlace out name name' location location') :
    Carries (SamePlace out name name') (fs.walk location path) (fs'.walk location' path) := by
  induction path generalizing location location' with
  | nil => exact carries_ok hplace
  | cons step path ih =>
      rw [List.mem_cons, not_or] at hdown
      rw [walk, walk, List.foldlM_cons, List.foldlM_cons]
      exact (h.enter_inside (fun e => hdown.1 e.symm) hplace).bind fun _ _ hnext => ih hdown.2 hnext

/-- The way into the two directories. -/
lemma enter_name (h : Twin root out name name' kept fs fs') :
    Carries (SamePlace out name name') (fs.enter out name) (fs'.enter out name') := by
  have hshort := h.standsFor.shorter
  have hnode := h.nodes []
  rw [h.here] at hnode
  by_cases hlimit : nameLimit < name.utf8ByteSize
  · rw [enter, if_neg h.plain.notHere, if_neg h.plain.notAbove, if_pos hlimit]
    exact carries_refused (by decide)
  · have hin : fs.enter out name = .ok (out ++ [name]) :=
      (enter_eq_ok_iff h.plain.notHere h.plain.notAbove).mpr ⟨by omega, h.here, rfl⟩
    have hin' : fs'.enter out name' = .ok (out ++ [name']) :=
      (enter_eq_ok_iff h.plain'.notHere h.plain'.notAbove).mpr ⟨by omega, hnode, rfl⟩
    rw [hin, hin']
    exact carries_ok ⟨[], rfl, rfl⟩

/-! ## Paths -/

lemma arrive_inside {last : String} {location location' : Location}
    (hplace : SamePlace out name name' location location') :
    Carries (SameTarget out name name') (arrive location last) (arrive location' last) := by
  obtain ⟨inside, rfl, rfl⟩ := hplace
  unfold arrive
  by_cases hhere : last = "."
  · rw [if_pos hhere, if_pos hhere]
    exact carries_ok .directory
  · rw [if_neg hhere, if_neg hhere]
    by_cases habove : last = ".."
    · rw [if_pos habove, if_pos habove]
      exact carries_ok .directory
    · rw [if_neg habove, if_neg habove]
      by_cases hlimit : nameLimit < last.utf8ByteSize
      · rw [if_pos hlimit]
        exact carries_refused (by decide)
      · rw [if_neg hlimit, if_neg hlimit]
        exact carries_ok (.entry (inside ++ [last]) (by simp) (by simp))

lemma arrive_name (h : Twin root out name name' kept fs fs') :
    Carries (SameTarget out name name') (arrive out name) (arrive out name') := by
  have hshort := h.standsFor.shorter
  unfold arrive
  rw [if_neg h.plain.notHere, if_neg h.plain.notAbove, if_neg h.plain'.notHere,
    if_neg h.plain'.notAbove]
  by_cases hlimit : nameLimit < name.utf8ByteSize
  · rw [if_pos hlimit]
    exact carries_refused (by decide)
  · rw [if_neg hlimit, if_neg (by omega)]
    exact carries_ok (.entry [] rfl rfl)

/-- Two paths into the two directories that differ in nothing but the name. -/
structure Parallel (name name' : String) (fs fs' : FileSystem) (out : Location)
    (path path' : String) (front tail : List String) : Prop where
  steps : steps path = front ++ name :: tail
  steps' : FileSystem.steps path' = front ++ name' :: tail
  walk : fs.walk (fs.startOf path) front = .ok out
  walk' : fs'.walk (fs'.startOf path') front = .ok out
  down : ".." ∉ tail
  permitted : Permitted path → Permitted path'

theorem resolve (h : Twin root out name name' kept fs fs') {path path' : String}
    {front tail : List String} (hpath : Parallel name name' fs fs' out path path' front tail) :
    Carries (SameTarget out name name') (fs.resolve path) (fs'.resolve path') := by
  have hne : path ≠ "" := by
    rintro rfl
    have hsteps := hpath.steps
    rw [steps_empty] at hsteps
    simp at hsteps
  by_cases hpermitted : Permitted path
  · have hpermitted' := hpath.permitted hpermitted
    rcases List.eq_nil_or_concat tail with rfl | ⟨above, last, rfl⟩
    · rw [resolve_of_steps_concat hpermitted hpath.steps,
        resolve_of_steps_concat hpermitted' hpath.steps', hpath.walk, hpath.walk']
      exact h.arrive_name
    · have hsteps := hpath.steps
      have hsteps' := hpath.steps'
      have hdown := hpath.down
      rw [List.concat_eq_append] at hsteps hsteps' hdown
      rw [← List.cons_append, ← List.append_assoc] at hsteps hsteps'
      rw [List.mem_append, not_or] at hdown
      rw [resolve_of_steps_concat hpermitted hsteps, resolve_of_steps_concat hpermitted' hsteps',
        walk_append_of_ok hpath.walk, walk_append_of_ok hpath.walk']
      refine Carries.bind ?_ fun _ _ hplace => arrive_inside hplace
      rw [FileSystem.walk, FileSystem.walk, List.foldlM_cons, List.foldlM_cons]
      exact h.enter_name.bind fun _ _ hplace => h.walk_inside hdown.1 hplace
  · have hresolve := permitted_of_resolve fs hne
    exact ⟨fun target htarget => absurd (hresolve.1 target htarget) hpermitted,
      fun hnone => absurd (hresolve.2 hnone) hpermitted⟩

/-! ## Directories and files -/

/-- The same node is put at the same place in both directories. -/
lemma put (h : Twin root out name name' kept fs fs') {directory directory' inside : Location}
    {last last' : String} (hplace : directory ++ [last] = out ++ name :: inside)
    (hplace' : directory' ++ [last'] = out ++ name' :: inside)
    (hnode : fs.nodeAt? (directory ++ [last]) ≠ some .directory) (node : Node) :
    Twin root out name name' kept (fs.put (directory ++ [last]) node)
      (fs'.put (directory' ++ [last']) node) where
  plain := h.plain
  plain' := h.plain'
  standsFor := h.standsFor
  reaches := h.reaches.mono (directoriesStay_put node hnode) rfl
  reaches' := by
    refine h.reaches'.mono (directoriesStay_put node ?_) rfl
    rw [hplace', h.nodes, ← hplace]
    exact hnode
  current := h.current
  here := directoriesStay_put node hnode _ h.here
  nodes := by
    intro other
    rw [nodeAt?_put_entry, nodeAt?_put_entry, hplace, hplace', h.nodes]
    simp
  kept := by
    have hbelow : out ++ [name'] <+: directory' ++ [last'] :=
      ⟨inside, by rw [hplace', List.append_assoc, List.singleton_append]⟩
    rw [removeTree_put hbelow, h.kept]

lemma settle (h : Twin root out name name' kept fs fs') {target target' : Target}
    (htarget : SameTarget out name name' target target') :
    Carries (Twin root out name name' kept) (fs.settle target) (fs'.settle target') := by
  cases htarget with
  | directory => exact carries_ok h
  | entry inside hplace hplace' =>
      have hnode := h.nodes inside
      rw [← hplace, ← hplace'] at hnode
      unfold FileSystem.settle
      simp only [hnode]
      split
      · rename_i hnone
        exact carries_ok (h.put hplace hplace' (by simp [hnone]) .directory)
      · exact carries_ok h
      · exact carries_refused (by decide)

lemma ensureDirectory (h : Twin root out name name' kept fs fs') {path path' : String}
    {front tail : List String} (hpath : Parallel name name' fs fs' out path path' front tail) :
    Carries (Twin root out name name' kept) (fs.ensureDirectory path)
      (fs'.ensureDirectory path') := by
  rw [ensureDirectory_eq, ensureDirectory_eq]
  exact (h.resolve hpath).bind fun _ _ htarget => h.settle htarget

lemma write (h : Twin root out name name' kept fs fs') {path path' : String}
    {front tail : List String} (hpath : Parallel name name' fs fs' out path path' front tail)
    (hclosed : isClosed path' = isClosed path) {content : ByteArray}
    (hwrite : fs.write path content = .ok fs₁) :
    ∃ fs₁', fs'.write path' content = .ok fs₁' ∧ Twin root out name name' kept fs₁ fs₁' := by
  have hopen := isClosed_of_write hwrite
  rw [write_eq hopen] at hwrite
  rw [write_eq (hclosed.trans hopen)]
  refine ((h.resolve hpath).bind (S := Twin root out name name' kept) ?_).ok fs₁ hwrite
  intro target target' htarget
  cases htarget with
  | directory => exact carries_refused (by decide)
  | entry inside hplace hplace' =>
      have hnode := h.nodes inside
      rw [← hplace, ← hplace'] at hnode
      unfold deposit
      simp only [hnode]
      split
      · exact carries_refused (by decide)
      · rename_i hfree
        exact carries_ok (h.put hplace hplace' hfree (.file content))

lemma read_parallel (h : Twin root out name name' kept fs fs') {path path' : String}
    {front tail : List String} (hpath : Parallel name name' fs fs' out path path' front tail)
    (hclosed : isClosed path' = isClosed path) {content : ByteArray}
    (hread : fs.read path = .ok content) : fs'.read path' = .ok content := by
  obtain ⟨directory, last, hresolve, hnode, hopen⟩ := read_eq_ok_iff.mp hread
  obtain ⟨target, hresolve', htarget⟩ := (h.resolve hpath).ok _ hresolve
  cases htarget with
  | entry inside hplace hplace' =>
      refine read_eq_ok_iff.mpr ⟨_, _, hresolve', ?_, hclosed.trans hopen⟩
      rw [hplace', h.nodes, ← hplace, hnode]

end Twin

/-! ## Paths that differ in the name -/

/-- A path that the system takes, with the second name in the place of the first. -/
lemma permitted_of_standsFor {name name' : String} (h : StandsFor name' name) (hne : name' ≠ "")
    {before after : String} (hpath : Permitted (before ++ name ++ after)) :
    Permitted (before ++ name' ++ after) where
  nonempty := by
    intro hempty
    have hlist := congrArg String.toList hempty
    rw [String.toList_append, String.toList_append] at hlist
    simp only [String.toList_empty, List.append_eq_nil_iff] at hlist
    exact hne (String.toList_injective (by simpa using hlist.1.2))
  noNul := by
    have hnul := hpath.noNul
    simp only [String.toList_append, List.contains_eq_mem, List.mem_append, decide_eq_false_iff_not,
      not_or] at hnul ⊢
    exact ⟨⟨hnul.1.1, h.noNul⟩, hnul.2⟩
  short := by
    have hshort := hpath.short
    have hname := h.shorter
    simp only [String.utf8ByteSize_append] at hshort ⊢
    omega

/-- What stands around a name in a path that is put together of names. -/
lemma exists_pathOf_eq (absolute : Bool) (front tail : List String) :
    ∃ before after, ∀ name,
      FileSystem.pathOf absolute (front ++ name :: tail) = before ++ name ++ after := by
  have hjoined : ∃ before after, ∀ name,
      String.intercalate "/" (front ++ name :: tail) = before ++ name ++ after := by
    induction front with
    | nil =>
        by_cases htail : tail = []
        · exact ⟨"", "", fun name => by simp [htail]⟩
        · refine ⟨"", "/" ++ String.intercalate "/" tail, fun name => ?_⟩
          rw [List.nil_append, String.intercalate_cons_of_ne_nil htail, String.empty_append,
            String.append_assoc]
    | cons part front ih =>
        obtain ⟨before, after, heq⟩ := ih
        refine ⟨part ++ "/" ++ before, after, fun name => ?_⟩
        rw [List.cons_append, String.intercalate_cons_of_ne_nil (by simp), heq]
        simp only [String.append_assoc]
  obtain ⟨before, after, heq⟩ := hjoined
  refine ⟨(if absolute then "/" else "") ++ before, after, fun name => ?_⟩
  rw [FileSystem.pathOf, heq]
  simp only [String.append_assoc]

/-- Whether a path below a directory means a directory does not depend on that one. -/
lemma isClosed_join_entry (root : String) {name file : String} (hname : IsEntryName name) :
    isClosed (join root (name ++ "/" ++ file)) = isClosed ("/" ++ file) := by
  obtain ⟨front, hfront⟩ := exists_join_eq root
  rw [hfront _ (isAbsolute_entry_slash hname file), isClosed, isClosed, String.append_assoc,
    ← String.append_assoc, String.toList_append, List.getLast?_append_of_ne_nil _ (by simp)]

namespace Twin

variable {root name name' : String} {out : Location} {kept fs fs' fs₁ : FileSystem} {file : String}

/-- The paths of a staged file in both directories. -/
lemma parallel_file (h : Twin root out name name' kept fs fs') (hfile : IsBelow file) :
    Parallel name name' fs fs' out (join root (name ++ "/" ++ file))
      (join root (name' ++ "/" ++ file)) (steps root) (steps file) where
  steps := by
    rw [steps_join root (isAbsolute_entry_slash h.plain file), steps_entry_slash h.plain]
  steps' := by
    rw [steps_join root (isAbsolute_entry_slash h.plain' file), steps_entry_slash h.plain']
  walk := by
    rw [startOf_join root (isAbsolute_entry_slash h.plain file)]
    exact h.reaches
  walk' := by
    rw [startOf_join root (isAbsolute_entry_slash h.plain' file)]
    exact h.reaches'
  down := hfile.noAbove
  permitted := by
    obtain ⟨front, hfront⟩ := exists_join_eq root
    have hsplit : ∀ entry : String, front ++ (entry ++ "/" ++ file)
        = front ++ entry ++ ("/" ++ file) := by
      intro entry
      simp only [String.append_assoc]
    rw [hfront _ (isAbsolute_entry_slash h.plain file),
      hfront _ (isAbsolute_entry_slash h.plain' file), hsplit, hsplit]
    exact permitted_of_standsFor h.standsFor h.plain'.nonempty

/-- The paths of a directory above a staged file in both directories. -/
lemma parallel_parent (h : Twin root out name name' kept fs fs') (tail : List String)
    (htail : ∀ part ∈ tail, part ≠ "" ∧ '/' ∉ part.toList) (hdown : ".." ∉ tail) :
    Parallel name name' fs fs' out
      (FileSystem.pathOf (isAbsolute root) (parts root ++ name :: tail))
      (FileSystem.pathOf (isAbsolute root) (parts root ++ name' :: tail)) (parts root) tail := by
  have hnames : ∀ {entry : String}, IsEntryName entry →
      ∀ part ∈ parts root ++ entry :: tail, part ≠ "" ∧ '/' ∉ part.toList := by
    intro entry hentry part hpart
    rcases List.mem_append.mp hpart with hpart | hpart
    · exact ⟨(mem_parts hpart).1, (mem_parts hpart).2.1⟩
    · rcases List.mem_cons.mp hpart with rfl | hpart
      · exact ⟨hentry.nonempty, hentry.noSlash⟩
      · exact htail part hpart
  have hwalk : ∀ {fs : FileSystem}, fs.Reaches root out →
      fs.walk (fs.startOf root) (parts root) = .ok out := by
    intro fs hreaches
    rw [← names_steps, walk_names]
    exact hreaches
  exact {
    steps := steps_pathOf _ (hnames h.plain)
    steps' := steps_pathOf _ (hnames h.plain')
    walk := by
      rw [startOf, isAbsolute_pathOf _ (hnames h.plain)]
      exact hwalk h.reaches
    walk' := by
      rw [startOf, isAbsolute_pathOf _ (hnames h.plain')]
      exact hwalk h.reaches'
    down := hdown
    permitted := by
      obtain ⟨before, after, heq⟩ := exists_pathOf_eq (isAbsolute root) (parts root) tail
      rw [heq, heq]
      exact permitted_of_standsFor h.standsFor h.plain'.nonempty }

/-- The directories above a staged file, up to the two directories themselves, which are there. -/
lemma createFromParts (h : Twin root out name name' kept fs fs') {reversed : List String}
    (hparts : ∀ part ∈ reversed, part ≠ "" ∧ '/' ∉ part.toList) (hdown : ".." ∉ reversed)
    (hcreate : FileSystem.createFromParts (isAbsolute root)
      (reversed ++ name :: (parts root).reverse) fs = (none, fs₁)) :
    ∃ fs₁', FileSystem.createFromParts (isAbsolute root)
        (reversed ++ name' :: (parts root).reverse) fs' = (none, fs₁')
      ∧ Twin root out name name' kept fs₁ fs₁' := by
  induction reversed generalizing fs fs' fs₁ with
  | nil =>
      have hpath := h.parallel_parent [] (by simp) (by simp)
      rw [List.nil_append, createFromParts_cons_eq_none_iff, List.reverse_reverse] at hcreate
      simp only [List.nil_append, createFromParts_cons_eq_none_iff, List.reverse_reverse]
      rcases hcreate with hok | ⟨hnone, -⟩
      · obtain ⟨fs₁', hok', htwin⟩ := (h.ensureDirectory hpath).ok _ hok
        exact ⟨fs₁', Or.inl hok', htwin⟩
      · exact absurd hnone (ensureDirectory_ne_notFound hpath.steps hpath.walk)
  | cons part reversed ih =>
      have htrail : ∀ entry : String, (reversed ++ entry :: (parts root).reverse).reverse ++ [part]
          = parts root ++ entry :: (reversed.reverse ++ [part]) := by simp
      have hall : ∀ other ∈ reversed.reverse ++ [part], other ∈ part :: reversed := by
        intro other hother
        simpa [or_comm] using hother
      have hpath : ∀ {fs fs'}, Twin root out name name' kept fs fs' → _ := fun h =>
        h.ensureDirectory
          (h.parallel_parent _ (fun other hother => hparts other (hall other hother))
            fun hup => hdown (hall _ hup))
      rw [List.forall_mem_cons] at hparts
      rw [List.mem_cons, not_or] at hdown
      rw [List.cons_append, createFromParts_cons_eq_none_iff, htrail] at hcreate
      simp only [List.cons_append, createFromParts_cons_eq_none_iff, htrail]
      rcases hcreate with hok | ⟨hnone, fs₂, habove, hok⟩
      · obtain ⟨fs₁', hok', htwin⟩ := (hpath h).ok _ hok
        exact ⟨fs₁', Or.inl hok', htwin⟩
      · obtain ⟨fs₂', habove', hmiddle⟩ := ih h hparts.2 hdown.2 habove
        obtain ⟨fs₁', hok', htwin⟩ := (hpath hmiddle).ok _ hok
        exact ⟨fs₁', Or.inr ⟨(hpath h).notFound hnone, fs₂', habove', hok'⟩, htwin⟩

lemma createDirectories (h : Twin root out name name' kept fs fs') (hfile : IsBelow file)
    (hparts : parts file ≠ [])
    (hcreate : fs.createDirectories (parentPath (join root (name ++ "/" ++ file))) = (none, fs₁)) :
    ∃ fs₁', fs'.createDirectories (parentPath (join root (name' ++ "/" ++ file))) = (none, fs₁')
      ∧ Twin root out name name' kept fs₁ fs₁' := by
  have hparent : ∀ {entry : String}, IsEntryName entry → ∀ fs : FileSystem,
      fs.createDirectories (parentPath (join root (entry ++ "/" ++ file)))
        = FileSystem.createFromParts (isAbsolute root)
          ((parts file).dropLast.reverse ++ entry :: (parts root).reverse) fs := by
    intro entry hentry fs
    have hall : parts (join root (entry ++ "/" ++ file)) = parts root ++ entry :: parts file := by
      rw [parts_join root (isAbsolute_entry_slash hentry file), parts_entry_slash hentry]
    have hinit : (parts (join root (entry ++ "/" ++ file))).dropLast
        = parts root ++ entry :: (parts file).dropLast := by
      rw [hall, List.dropLast_append_of_ne_nil (by simp), List.dropLast_cons_of_ne_nil hparts]
    rw [parentPath, isAbsolute_join root (isAbsolute_entry_slash hentry file),
      createDirectories_pathOf _ (List.dropLast_prefix _) (by rw [hinit]; simp), hinit]
    simp
  rw [hparent h.plain] at hcreate
  rw [hparent h.plain']
  have hmem : ∀ part ∈ (parts file).dropLast.reverse, part ∈ parts file := by
    intro part hpart
    exact (List.dropLast_prefix _).subset (List.mem_reverse.mp hpart)
  refine h.createFromParts (fun part hpart => ?_) (fun hup => ?_) hcreate
  · exact ⟨(mem_parts (hmem part hpart)).1, (mem_parts (hmem part hpart)).2.1⟩
  · have hpart := hmem _ hup
    rw [parts_eq] at hpart
    exact hfile.noAbove (List.mem_filter.mp hpart).1

end Twin

/-! ## Staging -/

lemma pathOf_within {root name file : String} (out : Location) (hname : IsEntryName name)
    (staged : List String) (hfile : IsBelow file) :
    (within root out name staged).pathOf file = join root (name ++ "/" ++ file) :=
  join_join root hname hfile.relative

/-- A path that leads to the staging directory itself cannot be written to. -/
lemma parts_ne_nil_of_write {root name file : String} {out : Location} {fs fs' : FileSystem}
    {content : ByteArray} (hname : IsEntryName name) (hfile : IsBelow file)
    (hreaches : fs.Reaches root out) (hhere : fs.nodeAt? (out ++ [name]) = some .directory)
    (hwrite : fs.write (join root (name ++ "/" ++ file)) content = .ok fs') : parts file ≠ [] := by
  intro hnil
  rw [write_eq (isClosed_of_write hwrite)] at hwrite
  obtain ⟨target, hresolve, hdeposit⟩ := Check.bind_eq_ok.mp hwrite
  cases target with
  | directory location => cases hdeposit
  | entry directory last =>
      have hlocation := location_of_resolve_join (hfile.entry_slash hname) hreaches hresolve
      rw [parts_entry_slash hname, hnil] at hlocation
      rw [deposit, hlocation, hhere] at hdeposit
      cases hdeposit

namespace Twin

variable {root name name' : String} {out : Location} {kept fs fs' fs₁ : FileSystem} {file : String}

/-- **Reading.**  What can be read in the first directory can be read in the second. -/
theorem read (h : Twin root out name name' kept fs fs') (hfile : IsBelow file)
    (staged : List String) {content : ByteArray}
    (hread : fs.read ((within root out name staged).pathOf file) = .ok content) :
    fs'.read ((within root out name' staged).pathOf file) = .ok content := by
  rw [pathOf_within out h.plain staged hfile] at hread
  rw [pathOf_within out h.plain' staged hfile]
  exact h.read_parallel (h.parallel_file hfile)
    ((isClosed_join_entry root h.plain').trans (isClosed_join_entry root h.plain).symm) hread

/-- **Staging.**  A file that can be staged in the first directory can be staged in the second. -/
theorem stage (h : Twin root out name name' kept fs fs') (hfile : IsBelow file)
    {staged : List String} {content : String} {s : Staging}
    (hstage : (within root out name staged).stage file content fs = .ok s fs₁) :
    ∃ fs₁', (within root out name' staged).stage file content fs'
        = .ok (within root out name' (staged ++ [file])) fs₁'
      ∧ Twin root out name name' kept fs₁ fs₁' := by
  obtain ⟨created, hcreate, hwrite⟩ := exists_of_stage hstage
  rw [pathOf_within out h.plain staged hfile] at hcreate hwrite
  have hgrows := grows_of_createDirectories hcreate
  have hparts : parts file ≠ [] := parts_ne_nil_of_write h.plain hfile
    (h.reaches.mono hgrows.directoriesStay hgrows.current) (hgrows.directoriesStay _ h.here) hwrite
  obtain ⟨created', hcreate', hcreated⟩ := h.createDirectories hfile hparts hcreate
  obtain ⟨written', hwrite', hwritten⟩ := hcreated.write (hcreated.parallel_file hfile)
    ((isClosed_join_entry root h.plain').trans (isClosed_join_entry root h.plain).symm) hwrite
  refine ⟨written', ?_, hwritten⟩
  unfold Staging.stage
  simp only [pathOf_within out h.plain' staged hfile, hcreate', hwrite']
  rfl

/-- Two new directories have nothing in them. -/
theorem begin {base after : FileSystem} (hname : IsEntryName name) (hname' : IsEntryName name')
    (hstands : StandsFor name' name) (hbase : base.WellFormed) (hafter : after.WellFormed)
    (hcurrent : after.current = base.current) (hreaches : base.Reaches root out)
    (hreaches' : after.Reaches root out) (hfree : base.nodeAt? (out ++ [name]) = none)
    (hfree' : after.nodeAt? (out ++ [name']) = none) :
    Twin root out name name' after (base.put (out ++ [name]) .directory)
      (after.put (out ++ [name']) .directory) where
  plain := hname
  plain' := hname'
  standsFor := hstands
  reaches := hreaches.mono (directoriesStay_put .directory (by simp [hfree])) rfl
  reaches' := hreaches'.mono (directoriesStay_put .directory (by simp [hfree'])) rfl
  current := hcurrent
  here := by rw [nodeAt?_put_entry, if_pos rfl]
  nodes := by
    have hbelow : ∀ {fs : FileSystem} {entry part : String} {inside : Location},
        fs.WellFormed → fs.nodeAt? (out ++ [entry]) = none →
          fs.nodeAt? (out ++ entry :: part :: inside) = none := by
      intro fs entry part inside hwf hnone
      rw [List.append_cons]
      exact hwf.nodeAt?_below (by simp [hnone]) (List.cons_ne_nil _ _)
    intro inside
    rw [nodeAt?_put_entry, nodeAt?_put_entry]
    cases inside with
    | nil => simp
    | cons part inside => simp [hbelow hbase hfree, hbelow hafter hfree']
  kept := by
    have hopen : ∀ other, out ++ [name'] <+: other → after.nodeAt? other = none := by
      rintro _ ⟨inside, rfl⟩
      cases inside with
      | nil => rw [List.append_nil, hfree']
      | cons part inside =>
          exact hafter.nodeAt?_below (by simp [hfree']) (List.cons_ne_nil _ _)
    rw [removeTree_put List.prefix_rfl, removeTree_eq_self (by simp) hopen]

end Twin

/-! ## Opening -/

/-- Where a session ended another one can begin, in the same output directory. -/
theorem createNamed_again (again : Naming) {output : String} {out : Location}
    {base after : FileSystem} (hbase : base.WellFormed) (houtput : output ≠ "" → Permitted output)
    (hfind : base.find (absolutePath base output) = .ok (out, .directory))
    (hafter : after.WellFormed) (hcurrent : after.current = base.current)
    (hstay : DirectoriesStay base after) :
    createNamed again output after
      = .ok (within (absolutePath base output) out (again after out) [])
        (after.put (out ++ [again after out]) .directory) := by
  have hroot : absolutePath after output = absolutePath base output := by
    rw [absolutePath, absolutePath, hcurrent]
  have hreaches := reaches_of_find hfind
  have houtput' := reaches_of_reaches_absolutePath hbase hreaches
  refine createNamed_eq_ok_iff.mpr ⟨after, out, ?_, ?_, by rw [hroot], rfl⟩
  · exact createDirectories_of_reaches hafter houtput (houtput'.mono hstay hcurrent)
  · rw [hroot]
    exact find_of_reaches hafter (permitted_of_find hfind) (hreaches.mono hstay hcurrent)

end ClassBridge.Staging
