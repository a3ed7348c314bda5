/-
Publishing a file by renaming. General: nothing here names a program.

A `Store` is a directory and its files: a name stands for a file, and a file keeps its content while somebody has it
open, whatever happens to its names. A writer makes a new version under the name `tmp` and renames it to `path`;
readers open `path` and read on, a piece at a time. A step of the system is one call of one party, in any order. The
writer may stop anywhere (`crash`) or give up (`withdraw`), it may publish when only a part of its text has reached the
file, and `path` may be unlinked. One writer is active at a time, another may start when it has stopped: two at once
would share the name `tmp`. A step that is not possible does nothing.

`versions` is the history: the text and the bytes of each file renamed to `path`, and of the file that was there before.
- `run_inv`: in every run, `path` names a version if it names anything, and what a reader has read is the beginning of
  one version;
- `read_whole`: at its end, it is that version;
- `versions_started`, `versions_complete`: a version is a beginning of a text that a writer has started with, and the
  text when no write has failed.
What carries it is that the file under `tmp` is open to nobody but the writer (`Inv`).
-/
import GpuHealth.Core.Runs

namespace GpuHealth.FilePublication

open GpuHealth.Runs

variable {N β R : Type} [DecidableEq N] [DecidableEq R]

/-! ## Directories -/

structure Store (N β : Type) where
  names : N → Option ℕ
  data : ℕ → List β
  /-- files from here on do not exist yet -/
  fresh : ℕ

/-- opened for writing, an existing file is emptied -/
def Store.create (s : Store N β) (a : N) : Store N β × ℕ :=
  match s.names a with
  | some file => ({ s with data := Function.update s.data file [] }, file)
  | none =>
    (⟨Function.update s.names a (some s.fresh), Function.update s.data s.fresh [], s.fresh + 1⟩, s.fresh)

def Store.append (s : Store N β) (file : ℕ) (bytes : List β) : Store N β :=
  { s with data := Function.update s.data file (s.data file ++ bytes) }

/-- `a` gives its file to `b` -/
def Store.rename (s : Store N β) (a b : N) : Store N β :=
  { s with names := Function.update (Function.update s.names b (s.names a)) a none }

def Store.unlink (s : Store N β) (a : N) : Store N β := { s with names := Function.update s.names a none }

/-! ## The parties -/

inductive Writer (β : Type) where
  | idle
  /-- `rest` of its text has not reached the file -/
  | writing (file : ℕ) (text rest : List β)

structure Version (β : Type) where
  text : List β
  bytes : List β

structure State (N β R : Type) where
  store : Store N β
  writer : Writer β
  /-- the file a reader has open, and what it has read of it -/
  reading : R → Option (ℕ × List β)
  versions : List (Version β)

inductive Op (β R : Type) where
  | start (text : List β)
  | write (k : ℕ)
  | publish
  | withdraw
  | crash
  | remove
  | openRead (r : R)
  | read (r : R) (k : ℕ)
  | closeRead (r : R)

variable (path tmp : N)

def step (s : State N β R) : Op β R → State N β R
  | .start text =>
    match s.writer with
    | .idle => { s with store := (s.store.create tmp).1, writer := .writing (s.store.create tmp).2 text text }
    | .writing _ _ _ => s
  | .write k =>
    match s.writer with
    | .writing file text rest =>
      { s with store := s.store.append file (rest.take k), writer := .writing file text (rest.drop k) }
    | .idle => s
  | .publish =>
    match s.writer with
    | .writing file text _ =>
      { s with
        store := s.store.rename tmp path
        writer := .idle
        versions := s.versions ++ [⟨text, s.store.data file⟩] }
    | .idle => s
  | .withdraw =>
    match s.writer with
    | .writing _ _ _ => { s with store := s.store.unlink tmp, writer := .idle }
    | .idle => s
  | .crash => { s with writer := .idle }
  | .remove => { s with store := s.store.unlink path }
  | .openRead r => { s with reading := Function.update s.reading r ((s.store.names path).map fun file => (file, [])) }
  | .read r k =>
    match s.reading r with
    | some (file, got) =>
      { s with
        reading := Function.update s.reading r (some (file, got ++ ((s.store.data file).drop got.length).take k)) }
    | none => s
  | .closeRead r => { s with reading := Function.update s.reading r none }

/-- nobody has anything open, and `tmp` is not there -/
def start (old : Option (List β)) : State N β R where
  store := ⟨fun a => if a = path then old.map fun _ => 0 else none, fun _ => old.getD [], 1⟩
  writer := .idle
  reading := fun _ => none
  versions := old.toList.map fun text => ⟨text, text⟩

/-! ## The invariant -/

/-- the file is a version, for good: it exists, and has not the name `tmp` -/
structure Settled (s : State N β R) (file : ℕ) : Prop where
  version : ∃ v ∈ s.versions, s.store.data file = v.bytes
  exists_ : file < s.store.fresh
  apart : s.store.names tmp ≠ some file

structure Inv (s : State N β R) : Prop where
  current : ∀ file, s.store.names path = some file → Settled tmp s file
  temporary : ∀ file, s.store.names tmp = some file → file < s.store.fresh
  reads : ∀ r file got, s.reading r = some (file, got) → Settled tmp s file ∧ got <+: s.store.data file
  writes : ∀ file text rest, s.writer = .writing file text rest →
    s.store.names tmp = some file ∧ s.store.data file ++ rest = text
  parts : ∀ v ∈ s.versions, v.bytes <+: v.text

variable {path tmp} {s : State N β R}

omit [DecidableEq R] in
theorem inv_start (hne : path ≠ tmp) (old : Option (List β)) : Inv path tmp (start path old : State N β R) where
  current := by
    intro file hfile
    cases old with
    | none =>
      rw [start] at hfile
      dsimp only at hfile
      rw [if_pos rfl] at hfile
      cases hfile
    | some text =>
      rw [start] at hfile
      dsimp only at hfile
      rw [if_pos rfl] at hfile
      obtain rfl := Option.some.inj hfile
      refine ⟨⟨⟨text, text⟩, List.mem_cons_self, rfl⟩, Nat.one_pos, ?_⟩
      rw [start]
      dsimp only
      rw [if_neg hne.symm]
      exact nofun
  temporary := by
    intro file hfile
    rw [start] at hfile
    dsimp only at hfile
    rw [if_neg hne.symm] at hfile
    cases hfile
  reads := fun r file got hr => by cases hr
  writes := fun file text rest hw => by cases hw
  parts := by
    intro v hv
    obtain ⟨text, -, rfl⟩ := List.mem_map.1 hv
    exact List.prefix_refl _

omit [DecidableEq N] [DecidableEq R] in
/-- a settled file stays so when its content does, the name `tmp` goes to another and versions are added -/
theorem Settled.keep {s' : State N β R} {file : ℕ} (h : Settled tmp s file)
    (hdata : s'.store.data file = s.store.data file) (hfresh : s.store.fresh ≤ s'.store.fresh)
    (htmp : s'.store.names tmp ≠ some file) (hversions : s.versions ⊆ s'.versions) : Settled tmp s' file := by
  obtain ⟨v, hv, hbytes⟩ := h.version
  exact ⟨⟨v, hversions hv, hdata.trans hbytes⟩, h.exists_.trans_le hfresh, htmp⟩

/-- what `create` does -/
theorem create_spec (st : Store N β) (a : N) (htmp : ∀ file, st.names a = some file → file < st.fresh) :
    (st.create a).1.names a = some (st.create a).2 ∧ (∀ b, b ≠ a → (st.create a).1.names b = st.names b) ∧
      (st.create a).1.data (st.create a).2 = [] ∧
      (∀ file, file ≠ (st.create a).2 → (st.create a).1.data file = st.data file) ∧
      st.fresh ≤ (st.create a).1.fresh ∧ (st.create a).2 < (st.create a).1.fresh ∧
      ((st.create a).2 = st.fresh ∨ st.names a = some (st.create a).2) := by
  unfold Store.create
  cases ha : st.names a with
  | some file =>
    exact ⟨ha, fun b hb => rfl, Function.update_self _ _ _, fun other hother => Function.update_of_ne hother _ _, le_rfl,
      htmp file ha, Or.inr rfl⟩
  | none =>
    exact ⟨Function.update_self _ _ _, fun b hb => Function.update_of_ne hb _ _, Function.update_self _ _ _,
      fun other hother => Function.update_of_ne hother _ _, Nat.le_succ _, Nat.lt_succ_self _, Or.inl rfl⟩

/-! ## Steps -/

omit [DecidableEq R] in
theorem inv_create (h : Inv path tmp s) (hne : path ≠ tmp) (text : List β) :
    Inv path tmp { s with store := (s.store.create tmp).1, writer := .writing (s.store.create tmp).2 text text } := by
  obtain ⟨hname, hother, hempty, hdata, hfresh, hlt, hwhich⟩ := create_spec s.store tmp h.temporary
  have hkeep : ∀ file, Settled tmp s file → Settled tmp
      { s with store := (s.store.create tmp).1, writer := .writing (s.store.create tmp).2 text text } file := by
    intro file hfile
    have hapart : file ≠ (s.store.create tmp).2 := by
      rintro rfl
      rcases hwhich with hnew | hold
      · exact absurd hfile.exists_ (by omega)
      · exact hfile.apart hold
    refine hfile.keep (hdata file hapart) hfresh ?_ (List.Subset.refl _)
    dsimp only
    rw [hname]
    exact fun heq => hapart (Option.some.inj heq).symm
  refine ⟨?_, ?_, ?_, ?_, h.parts⟩
  · intro file hfile
    dsimp only at hfile
    rw [hother path hne] at hfile
    exact hkeep file (h.current file hfile)
  · intro file hfile
    dsimp only at hfile
    rw [hname] at hfile
    obtain rfl := Option.some.inj hfile
    exact hlt
  · intro r file got hr
    obtain ⟨hsettled, hgot⟩ := h.reads r file got hr
    have hsettled' := hkeep file hsettled
    refine ⟨hsettled', ?_⟩
    have hapart : file ≠ (s.store.create tmp).2 := by
      rintro rfl
      exact hsettled'.apart hname
    dsimp only
    rwa [hdata file hapart]
  · intro file text' rest hw
    obtain ⟨rfl, rfl, rfl⟩ := Writer.writing.inj hw
    refine ⟨hname, ?_⟩
    dsimp only
    rw [hempty, List.nil_append]

omit [DecidableEq N] [DecidableEq R] in
theorem inv_write (h : Inv path tmp s) {file : ℕ} {text rest : List β} (hw : s.writer = .writing file text rest) (k : ℕ) :
    Inv path tmp { s with
      store := s.store.append file (rest.take k), writer := .writing file text (rest.drop k) } := by
  obtain ⟨hname, htext⟩ := h.writes file text rest hw
  have hdata : ∀ other, Settled tmp s other →
      (s.store.append file (rest.take k)).data other = s.store.data other := by
    intro other hother
    apply Function.update_of_ne
    rintro rfl
    exact hother.apart hname
  have hkeep : ∀ other, Settled tmp s other → Settled tmp { s with
      store := s.store.append file (rest.take k), writer := .writing file text (rest.drop k) } other :=
    fun other hother => hother.keep (hdata other hother) le_rfl hother.apart (List.Subset.refl _)
  refine ⟨fun other hother => hkeep other (h.current other hother), h.temporary, ?_, ?_, h.parts⟩
  · intro r other got hr
    obtain ⟨hsettled, hgot⟩ := h.reads r other got hr
    refine ⟨hkeep other hsettled, ?_⟩
    dsimp only
    rwa [hdata other hsettled]
  · intro other text' rest' hw'
    obtain ⟨rfl, rfl, rfl⟩ := Writer.writing.inj hw'
    refine ⟨hname, ?_⟩
    dsimp only [Store.append]
    rw [Function.update_self, List.append_assoc, List.take_append_drop, htext]

omit [DecidableEq R] in
theorem inv_publish (h : Inv path tmp s) (hne : path ≠ tmp) {file : ℕ} {text rest : List β}
    (hw : s.writer = .writing file text rest) :
    Inv path tmp { s with
      store := s.store.rename tmp path, writer := .idle, versions := s.versions ++ [⟨text, s.store.data file⟩] } := by
  obtain ⟨hname, htext⟩ := h.writes file text rest hw
  have htmp : (s.store.rename tmp path).names tmp = none := Function.update_self _ _ _
  have hpath : (s.store.rename tmp path).names path = some file := by
    rw [Store.rename, hname]
    exact (Function.update_of_ne hne _ _).trans (Function.update_self _ _ _)
  have hkeep : ∀ other, Settled tmp s other → Settled tmp { s with
      store := s.store.rename tmp path, writer := .idle, versions := s.versions ++ [⟨text, s.store.data file⟩] } other := by
    intro other hother
    refine hother.keep rfl le_rfl ?_ (List.subset_append_left _ _)
    dsimp only
    rw [htmp]
    exact nofun
  refine ⟨?_, ?_, ?_, nofun, ?_⟩
  · intro other hother
    dsimp only at hother
    rw [hpath] at hother
    obtain rfl := Option.some.inj hother
    refine ⟨⟨_, List.mem_append_right _ List.mem_cons_self, rfl⟩, h.temporary file hname, ?_⟩
    dsimp only
    rw [htmp]
    exact nofun
  · intro other hother
    dsimp only at hother
    rw [htmp] at hother
    cases hother
  · intro r other got hr
    obtain ⟨hsettled, hgot⟩ := h.reads r other got hr
    exact ⟨hkeep other hsettled, hgot⟩
  · intro v hv
    rcases List.mem_append.1 hv with hold | hnew
    · exact h.parts v hold
    · obtain rfl := List.mem_singleton.1 hnew
      exact ⟨rest, htext⟩

omit [DecidableEq R] in
/-- a name is removed -/
theorem inv_unlink (h : Inv path tmp s) {a : N} {w : Writer β}
    (hw : ∀ file text rest, w = .writing file text rest → a ≠ tmp ∧ s.writer = .writing file text rest) :
    Inv path tmp { s with store := s.store.unlink a, writer := w } := by
  have hname : ∀ b file, (s.store.unlink a).names b = some file → s.store.names b = some file := by
    intro b file hb
    by_cases hba : b = a
    · subst hba
      rw [Store.unlink] at hb
      dsimp only at hb
      rw [Function.update_self] at hb
      cases hb
    · exact (Function.update_of_ne hba _ _).symm.trans hb
  have hkeep : ∀ file, Settled tmp s file → Settled tmp { s with store := s.store.unlink a, writer := w } file :=
    fun file hfile => hfile.keep rfl le_rfl (fun heq => hfile.apart (hname tmp file heq)) (List.Subset.refl _)
  refine ⟨fun file hfile => hkeep file (h.current file (hname path file hfile)),
    fun file hfile => h.temporary file (hname tmp file hfile), ?_, ?_, h.parts⟩
  · intro r file got hr
    obtain ⟨hsettled, hgot⟩ := h.reads r file got hr
    exact ⟨hkeep file hsettled, hgot⟩
  · intro file text rest hwr
    obtain ⟨hat, hsw⟩ := hw file text rest hwr
    obtain ⟨htmp, htext⟩ := h.writes file text rest hsw
    exact ⟨(Function.update_of_ne hat.symm _ _).trans htmp, htext⟩

omit [DecidableEq N] in
/-- a reader opens, reads or closes -/
theorem inv_reading (h : Inv path tmp s) (r : R) {v : Option (ℕ × List β)}
    (hv : ∀ file got, v = some (file, got) → Settled tmp s file ∧ got <+: s.store.data file) :
    Inv path tmp { s with reading := Function.update s.reading r v } where
  current := fun file hfile => (h.current file hfile).keep rfl le_rfl (h.current file hfile).apart (List.Subset.refl _)
  temporary := h.temporary
  reads := by
    intro other file got hother
    dsimp only at hother
    have hold : Settled tmp s file ∧ got <+: s.store.data file := by
      by_cases hor : other = r
      · subst hor
        rw [Function.update_self] at hother
        exact hv file got hother
      · rw [Function.update_of_ne hor] at hother
        exact h.reads other file got hother
    exact ⟨hold.1.keep rfl le_rfl hold.1.apart (List.Subset.refl _), hold.2⟩
  writes := h.writes
  parts := h.parts

omit [DecidableEq N] [DecidableEq R] in
/-- the writer stops -/
theorem inv_crash (h : Inv path tmp s) : Inv path tmp { s with writer := .idle } where
  current := fun file hfile => (h.current file hfile).keep rfl le_rfl (h.current file hfile).apart (List.Subset.refl _)
  temporary := h.temporary
  reads := fun r file got hr =>
    ⟨(h.reads r file got hr).1.keep rfl le_rfl (h.reads r file got hr).1.apart (List.Subset.refl _), (h.reads r file got hr).2⟩
  writes := nofun
  parts := h.parts

/-- **The step lemma** -/
theorem inv_step (h : Inv path tmp s) (hne : path ≠ tmp) (op : Op β R) : Inv path tmp (step path tmp s op) := by
  cases op with
  | start text =>
    cases hw : s.writer with
    | idle =>
      rw [step, hw]
      exact inv_create h hne text
    | writing file text' rest =>
      rw [step, hw]
      exact h
  | write k =>
    cases hw : s.writer with
    | idle =>
      rw [step, hw]
      exact h
    | writing file text rest =>
      rw [step, hw]
      exact inv_write h hw k
  | publish =>
    cases hw : s.writer with
    | idle =>
      rw [step, hw]
      exact h
    | writing file text rest =>
      rw [step, hw]
      exact inv_publish h hne hw
  | withdraw =>
    cases hw : s.writer with
    | idle =>
      rw [step, hw]
      exact h
    | writing file text rest =>
      rw [step, hw]
      exact inv_unlink h nofun
  | crash => exact inv_crash h
  | remove => exact inv_unlink h fun file text rest hw => ⟨hne, hw⟩
  | openRead r =>
    refine inv_reading h r ?_
    intro file got hv
    obtain ⟨file', hfile, heq⟩ := Option.map_eq_some_iff.1 hv
    obtain ⟨rfl, rfl⟩ := Prod.mk.inj heq
    exact ⟨h.current file' hfile, List.nil_prefix⟩
  | read r k =>
    cases hr : s.reading r with
    | none =>
      rw [step, hr]
      exact h
    | some reading =>
      obtain ⟨file, got⟩ := reading
      rw [step, hr]
      refine inv_reading h r ?_
      intro file' got' hv
      obtain ⟨rfl, rfl⟩ := Prod.mk.inj (Option.some.inj hv)
      obtain ⟨hsettled, rest, hrest⟩ := h.reads r file got hr
      refine ⟨hsettled, ?_⟩
      rw [← hrest, List.drop_left]
      exact (List.prefix_append_right_inj got).2 (List.take_prefix k rest)
  | closeRead r => exact inv_reading h r nofun

/-- **The run lemma** -/
theorem run_inv (hne : path ≠ tmp) (old : Option (List β)) (ops : List (Op β R)) :
    Inv path tmp (run (step path tmp) (start path old : State N β R) ops) := by
  have hstep : ∀ (s : State N β R) op, Inv path tmp s → Inv path tmp (step path tmp s op) :=
    fun s op h => inv_step h hne op
  exact Runs.run_inv hstep ops (inv_start hne old)

/-! ## What readers see -/

omit [DecidableEq N] [DecidableEq R] in
/-- **A reader at the end has a version.** -/
theorem read_whole (h : Inv path tmp s) {r : R} {file : ℕ} {got : List β} (hr : s.reading r = some (file, got))
    (hend : got.length = (s.store.data file).length) : ∃ v ∈ s.versions, got = v.bytes := by
  obtain ⟨hsettled, hgot⟩ := h.reads r file got hr
  obtain ⟨v, hv, hbytes⟩ := hsettled.version
  exact ⟨v, hv, (hgot.eq_of_length hend).trans hbytes⟩

/-- where a version comes from: the file that was there, or a `start` of the run -/
theorem versions_started (old : Option (List β)) (ops : List (Op β R)) :
    let s := run (step path tmp) (start path old : State N β R) ops
    (∀ v ∈ s.versions, old = some v.text ∨ .start v.text ∈ ops) ∧
      ∀ file text rest, s.writer = .writing file text rest → .start text ∈ ops := by
  induction ops using List.reverseRecOn with
  | nil =>
    refine ⟨fun v hv => ?_, fun file text rest hw => by cases hw⟩
    obtain ⟨text, htext, rfl⟩ := List.mem_map.1 hv
    exact Or.inl (Option.mem_toList.1 htext)
  | append_singleton ops op ih =>
    obtain ⟨hversions, hwriter⟩ := ih
    dsimp only
    rw [run_snoc]
    generalize run (step path tmp) (start path old : State N β R) ops = s at hversions hwriter
    have hold : (∀ v ∈ s.versions, old = some v.text ∨ .start v.text ∈ ops ++ [op]) ∧
        ∀ file text rest, s.writer = .writing file text rest → .start text ∈ ops ++ [op] :=
      ⟨fun v hv => (hversions v hv).imp_right (List.mem_append_left _),
        fun file text rest hw => List.mem_append_left _ (hwriter file text rest hw)⟩
    cases op with
    | start text =>
      cases hw : s.writer with
      | idle =>
        rw [step, hw]
        refine ⟨hold.1, fun file text' rest hw' => ?_⟩
        obtain ⟨-, rfl, -⟩ := Writer.writing.inj hw'
        exact List.mem_append_right _ List.mem_cons_self
      | writing file text' rest =>
        rw [step, hw]
        exact hold
    | write k =>
      cases hw : s.writer with
      | idle =>
        rw [step, hw]
        exact hold
      | writing file text rest =>
        rw [step, hw]
        refine ⟨hold.1, fun file' text' rest' hw' => ?_⟩
        obtain ⟨rfl, rfl, -⟩ := Writer.writing.inj hw'
        exact hold.2 file text rest hw
    | publish =>
      cases hw : s.writer with
      | idle =>
        rw [step, hw]
        exact hold
      | writing file text rest =>
        rw [step, hw]
        refine ⟨fun v hv => ?_, nofun⟩
        rcases List.mem_append.1 hv with hpast | hnew
        · exact hold.1 v hpast
        · obtain rfl := List.mem_singleton.1 hnew
          exact Or.inr (hold.2 file text rest hw)
    | withdraw =>
      cases hw : s.writer with
      | idle =>
        rw [step, hw]
        exact hold
      | writing file text rest =>
        rw [step, hw]
        exact ⟨hold.1, nofun⟩
    | crash => exact ⟨hold.1, nofun⟩
    | remove => exact hold
    | openRead r => exact hold
    | read r k =>
      rw [step]
      split <;> exact hold
    | closeRead r => exact hold

/-- nothing of the text is missing when it is published -/
def Complete (s : State N β R) : Op β R → Prop
  | .publish => ∀ file text rest, s.writer = .writing file text rest → rest = []
  | _ => True

/-- **When no write has failed, the versions are the texts.** -/
theorem versions_complete (hne : path ≠ tmp) (old : Option (List β)) {ops : List (Op β R)}
    (hcomplete : AtEveryStep (fun pre op => Complete (run (step path tmp) (start path old : State N β R) pre) op) ops) :
    ∀ v ∈ (run (step path tmp) (start path old : State N β R) ops).versions, v.bytes = v.text := by
  induction ops using List.reverseRecOn with
  | nil =>
    intro v hv
    obtain ⟨text, -, rfl⟩ := List.mem_map.1 hv
    rfl
  | append_singleton ops op ih =>
    obtain ⟨hpre, hop⟩ := atEveryStep_snoc.1 hcomplete
    have hold := ih hpre
    have hinv := run_inv (R := R) hne old ops
    rw [run_snoc]
    generalize run (step path tmp) (start path old : State N β R) ops = s at hold hop hinv
    cases op with
    | publish =>
      cases hw : s.writer with
      | idle =>
        rw [step, hw]
        exact hold
      | writing file text rest =>
        have hrest : rest = [] := hop file text rest hw
        have htext := (hinv.writes file text rest hw).2
        rw [hrest, List.append_nil] at htext
        rw [step, hw]
        intro v hv
        rcases List.mem_append.1 hv with hpast | hnew
        · exact hold v hpast
        · obtain rfl := List.mem_singleton.1 hnew
          exact htext
    | start text =>
      rw [step]
      split <;> exact hold
    | write k =>
      rw [step]
      split <;> exact hold
    | withdraw =>
      rw [step]
      split <;> exact hold
    | crash => exact hold
    | remove => exact hold
    | openRead r => exact hold
    | read r k =>
      rw [step]
      split <;> exact hold
    | closeRead r => exact hold

end GpuHealth.FilePublication
