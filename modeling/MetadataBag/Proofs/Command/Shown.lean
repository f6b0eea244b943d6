import MetadataBag.Command.Run
import MetadataBag.Proofs.Command.Filling

/-!
What a run prints that shows a file as text: one line for every item that is not null, those of one
slot together, or nothing at all. Whatever catalogs have been loaded before, they print nothing and
leave a registry in which every text leads to one slot. The host is any.
-/

namespace MetadataBag.Command

open Catalog (Namespace Spellings)

/-! ### Catalogs -/

variable {host : Host} {r : Registry Namespace} {path : String}

lemma loadCatalogs_nil (host : Host) (r : Registry Namespace) :
    loadCatalogs host r [] = (r, {}) := by
  rw [loadCatalogs.eq_def]

lemma loadCatalogs_of_failed {e : Error}
    (h : (Catalog.load host.read host.folder path r).failure = some e) (rest : List String) :
    loadCatalogs host r (path :: rest) =
      let l := Catalog.load host.read host.folder path r
      (l.registry, { reports := catalogReports path l, failure := some e }) := by
  rw [loadCatalogs.eq_def]
  simp only [h]

lemma loadCatalogs_of_loaded
    (h : (Catalog.load host.read host.folder path r).failure = none) (rest : List String) :
    loadCatalogs host r (path :: rest) =
      let l := Catalog.load host.read host.folder path r
      let p : Progress := { reports := catalogReports path l }
      ((loadCatalogs host l.registry rest).1, p.andThen (loadCatalogs host l.registry rest).2) := by
  rw [loadCatalogs.eq_def]
  simp only [h]

/-- Catalogs print nothing, and nothing is wrong with them but that one of them fails. -/
lemma loadCatalogs_quiet (host : Host) (r : Registry Namespace) (paths : List String) :
    (loadCatalogs host r paths).2.output = "" ∧ (loadCatalogs host r paths).2.flawed = false := by
  induction paths generalizing r with
  | nil => exact ⟨rfl, rfl⟩
  | cons path rest ih =>
    rcases h : (Catalog.load host.read host.folder path r).failure with _ | e
    · rw [loadCatalogs_of_loaded h]
      obtain ⟨houtput, hflawed⟩ := ih (Catalog.load host.read host.folder path r).registry
      simp [Progress.andThen, houtput, hflawed]
    · rw [loadCatalogs_of_failed h]
      exact ⟨rfl, rfl⟩

/-! ### Lines -/

def lineOf (w : Put Namespace) : String := w.1.display ++ ": " ++ w.2

lemma itemLines_eq {b : Bag Namespace} {codec : Codec} {ws : List (Put Namespace)}
    (h : b.store = (Store.empty codec).putAll ws) :
    itemLines b = (Put.gathered ws).map lineOf := by
  rw [itemLines, Bag.items, h, Store.items_putAll, Put.gathered, List.map_map, List.map_flatMap,
    List.flatMap_map]
  simp only [List.map_map]
  rfl

/-! ### Runs -/

variable {arguments : List String} {i : Invocation} {c : Configuration} {zone : LocalZone}
  {least : Level} {entries : List (Value × Value)}

/-- The definitions of a run once its catalogs are loaded. -/
def definitions (host : Host) (c : Configuration) : Definitions :=
  ⟨(loadCatalogs host Catalog.defaultRegistry c.catalogs).1, spellings host c.catalogs⟩

/-- A run that has got to its task answers as the task does. -/
lemma run_of_task {p : Progress} (hread : Invocation.read arguments = .ok i)
    (hconfig : Configuration.load host.folder host.environment i.config = .ok c)
    (hlevel : levelOf i c = .ok least)
    (hcatalogs : (loadCatalogs host Catalog.defaultRegistry c.catalogs).2.failure = none)
    (htask : i.task.run host (definitions host c) c = p) :
    (run arguments host).output = p.output ∧
      (run arguments host).status = if p.flawed || p.failure.isSome then 1 else 0 := by
  obtain ⟨houtput, hflawed⟩ := loadCatalogs_quiet host Catalog.defaultRegistry c.catalogs
  have hrun : run arguments host = (i.perform host c).answer least := by
    simp only [run, hread, Invocation.run, hconfig, hlevel, bind, Except.bind, pure, Except.pure]
  rw [definitions] at htask
  rw [hrun, Invocation.perform]
  generalize loadCatalogs host Catalog.defaultRegistry c.catalogs = catalogs at *
  simp [Progress.andThen, Progress.answer, hcatalogs, houtput, hflawed, htask]

lemma filled_loadFile (r : Registry Namespace) (spelled : Spellings)
    (hzone : host.zone c = .ok zone)
    (hfile : host.document (Path.normalize path) = .ok (.map entries))
    (hshort : ∀ n ∈ (Value.map entries).integers, Value.Short n) :
    Filled r (Codec.ofName c.codec) (pairsOf entries) (loadFile host path r spelled c) := by
  have hwritable : (Value.map entries).Writable := (Value.writable_iff _).mpr hshort
  have hfill : Filled r (Codec.ofName c.codec) (pairsOf entries)
      (fill (Path.normalize path) r spelled (.empty (.ofName c.codec) zone) entries) :=
    filled_foldl _ _ _ _ (writable_pairsOf hwritable)
  unfold loadFile
  dsimp only
  rw [hfile]
  simp only [ofDocument, hzone]
  -- what is reported does not matter
  exact ⟨hfill.failure_iff, hfill.store_eq⟩

/-- A clean file is shown line by line, any other one not at all. -/
lemma showFile_of_filled {d : Definitions} {items : List (Value × Value)} {codec : Codec}
    (h : Filled d.registry codec items (loadFile host path d.registry d.spelled c)) :
    let p := showFile host d c path .text
    (Clean d.registry items → p.failure = none ∧
      p.output = lines ((Put.gathered (putsOf d.registry (textsOf items))).map lineOf)) ∧
    (¬ Clean d.registry items → p.failure.isSome = true ∧ p.output = "") := by
  unfold showFile
  generalize loadFile host path d.registry d.spelled c = f at h
  constructor
  · intro hclean
    have hdone : f.failure = none := h.failure_iff.mpr hclean
    simp only [hdone, Format.render, itemLines_eq (h.store_eq hdone)]
    exact ⟨trivial, trivial⟩
  · intro hdirty
    obtain ⟨e, hfailed⟩ := Option.ne_none_iff_exists'.mp (h.failure_iff.not.mpr hdirty)
    simp [hfailed]

/-- **Showing a file loses and invents nothing.** Whatever the host, its reader of documents and
its clock, with any settings and any catalogs that can be loaded, a run that shows a file prints
one line for every item that is not null, those of one slot together and the slots in the order
of their first items, or fails and prints nothing. It fails exactly if some item is a list or a
mapping, a text is under a name that nothing can be stored under, or a text comes to a slot that
has one under a name whose definition permits one only. The items are the members of lists and
whatever else stands under a name. -/
theorem showing_loses_and_invents_nothing (hread : Invocation.read arguments = .ok i)
    (htask : i.task = .showFile path .text)
    (hconfig : Configuration.load host.folder host.environment i.config = .ok c)
    (hlevel : levelOf i c = .ok least) (hzone : host.zone c = .ok zone)
    (hcatalogs : (loadCatalogs host Catalog.defaultRegistry c.catalogs).2.failure = none)
    (hfile : host.document (Path.normalize path) = .ok (.map entries))
    (hshort : ∀ n ∈ (Value.map entries).integers, Value.Short n) :
    let r := (loadCatalogs host Catalog.defaultRegistry c.catalogs).1
    let a := run arguments host
    (a.status = 0 ∧ a.output = lines ((Put.gathered (toldBy r entries)).map lineOf) ∨
      a.status = 1 ∧ a.output = "") ∧
    (a.status = 1 ↔ (∃ e ∈ pairsOf entries, e.2.Nested) ∨
      (∃ e ∈ textsOf (pairsOf entries), Barred r e.1) ∨
      Crowded r (textsOf (pairsOf entries))) ∧
    ((Put.gathered (toldBy r entries)).map Put.slotted).Perm
      ((toldBy r entries).map Put.slotted) ∧
    Itemized entries (pairsOf entries) := by
  intro r a
  have hfilled := filled_loadFile r (definitions host c).spelled hzone hfile hshort
  obtain ⟨hshown, hnothing⟩ := showFile_of_filled (d := definitions host c) hfilled
  have htaskrun : i.task.run host (definitions host c) c =
      showFile host (definitions host c) c path .text := by
    rw [htask]
    rfl
  obtain ⟨houtput, hstatus⟩ := run_of_task hread hconfig hlevel hcatalogs htaskrun
  -- a shown file is refused or shown; flaws are found by a check only
  have hflawed : (showFile host (definitions host c) c path .text).flawed = false := by
    unfold showFile
    dsimp only
    split
    · rfl
    · split <;> rfl
  rw [hflawed, Bool.false_or] at hstatus
  rw [← not_clean_iff]
  by_cases hclean : Clean r (pairsOf entries)
  · obtain ⟨hdone, hlines⟩ := hshown hclean
    rw [hdone] at hstatus
    have hzero : a.status ≠ 1 := by
      rw [hstatus]
      decide
    exact ⟨Or.inl ⟨hstatus, houtput.trans hlines⟩,
      iff_of_false hzero (not_not.mpr hclean), Put.gathered_perm _, itemized_pairsOf entries⟩
  · obtain ⟨hfailed, hempty⟩ := hnothing hclean
    rw [hfailed] at hstatus
    exact ⟨Or.inr ⟨hstatus, houtput.trans hempty⟩, iff_of_true hstatus hclean,
      Put.gathered_perm _, itemized_pairsOf entries⟩

/-! ### Files -/

def onlyFile (text : String) : Host :=
  { folder := .ofList [("m.yaml", text.toUTF8)], read := Yaml.reader }

def showIt : List String := ["show", "m.yaml"]

lemma exists_entries {P : List (Value × Value) → Prop} [DecidablePred P]
    (h : (match host.document "m.yaml" with
      | .ok (.map entries) => decide (P entries)
      | _ => false) = true) :
    ∃ entries, host.document "m.yaml" = .ok (.map entries) ∧ P entries := by
  split at h
  · exact ⟨_, ‹_›, of_decide_eq_true h⟩
  · cases h

/-- A number and a text that are one key with another key between them, a null, and a title. -/
def mixedFile : Host :=
  onlyFile "7: one\ntags: [x, null, 7]\n\"7\": two\ndc:title: three\n"

theorem showing_loses_and_invents_nothing_mixed :
    ∃ entries, mixedFile.document "m.yaml" = .ok (.map entries) ∧
      (∀ n ∈ (Value.map entries).integers, Value.Short n) ∧
      (run showIt mixedFile).status = 0 ∧
      lines ((Put.gathered (toldBy Catalog.defaultRegistry entries)).map lineOf) =
        "7: one\n7: two\ntags: x\ntags: 7\ndc:title: three\n" := by
  obtain ⟨entries, hfile, hshort⟩ : ∃ entries, mixedFile.document "m.yaml" = .ok (.map entries) ∧
      ∀ n ∈ (Value.map entries).integers, Value.Short n := exists_entries (by decide +kernel)
  have hrun : run showIt mixedFile =
      ⟨0, "7: one\n7: two\ntags: x\ntags: 7\ndc:title: three\n", ""⟩ := by decide +kernel
  have hread : Invocation.read showIt = .ok ⟨none, none, false, .showFile "m.yaml" .text⟩ := by
    decide +kernel
  have hconfig : Configuration.load mixedFile.folder mixedFile.environment none = .ok {} := rfl
  have hlevel : levelOf ⟨none, none, false, .showFile "m.yaml" .text⟩ {} = .ok .warning := by
    decide +kernel
  have hcatalogs : loadCatalogs mixedFile Catalog.defaultRegistry ({} : Configuration).catalogs =
      (Catalog.defaultRegistry, {}) := loadCatalogs_nil _ _
  have hpath : Path.normalize "m.yaml" = "m.yaml" := by decide +kernel
  obtain ⟨hanswer, -⟩ := showing_loses_and_invents_nothing hread rfl hconfig hlevel rfl
    (congrArg (·.2.failure) hcatalogs) (hpath ▸ hfile) hshort
  rw [hrun, hcatalogs] at hanswer
  rw [hrun]
  rcases hanswer with ⟨-, hlines⟩ | ⟨hone, -⟩
  · dsimp only at hlines
    exact ⟨entries, hfile, hshort, rfl, hlines.symm⟩
  · cases hone

/-- A mapping of one entry that is written as a pair is no scalar, and yet it is no failure. -/
theorem pair_is_shown_as_text :
    (∃ entries, (onlyFile "k: !!pairs [a: 1]\n").document "m.yaml" = .ok (.map entries) ∧
      ∃ e ∈ pairsOf entries, e.2.isScalar = false) ∧
    run showIt (onlyFile "k: !!pairs [a: 1]\n") = ⟨0, "k: ('a', 1)\n", ""⟩ :=
  ⟨exists_entries (by decide +kernel), by decide +kernel⟩

end MetadataBag.Command
