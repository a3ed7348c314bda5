/-
Pages of metric families, one line each for the help text, the type and every sample. General: nothing here names a
program.

`lines` are the lines of a text that end in a newline, `page` is the text of a list of lines. A `Family` has a name, a
help text, a type and its sample lines, and `Complete fs` says of a text that it ends in a newline and shows for every
family of `fs` exactly its lines.

`complete_iff`: a page of families with different names, cut after `m` characters, is complete if and only if no sample
has a newline in it and the page has at most `m` characters.
-/
import Mathlib.Tactic

namespace GpuHealth.Exposition

/-! ## Lines -/

/-- the lines that end in a newline; `cur` is the line so far -/
def linesFrom : List Char → List Char → List (List Char)
  | _, [] => []
  | cur, c :: s => if c = '\n' then cur :: linesFrom [] s else linesFrom (cur ++ [c]) s

def lines (s : List Char) : List (List Char) := linesFrom [] s

/-- the text of the lines -/
def page (l : List (List Char)) : List Char := l.flatMap fun line => line ++ ['\n']

@[simp] theorem page_nil : page [] = [] := rfl

@[simp] theorem page_cons (line : List Char) (l : List (List Char)) : page (line :: l) = line ++ '\n' :: page l := by
  rw [page, List.flatMap_cons, List.append_assoc]
  rfl

theorem page_append (l l' : List (List Char)) : page (l ++ l') = page l ++ page l' := List.flatMap_append

theorem page_getLast {l : List (List Char)} (hl : l ≠ []) : (page l).getLast? = some '\n' := by
  obtain ⟨l, line, rfl⟩ := (List.eq_nil_or_concat l).resolve_left hl
  rw [List.concat_eq_append, page_append, page, page, List.flatMap_singleton, ← List.append_assoc]
  exact List.getLast?_concat

theorem linesFrom_line {line : List Char} (h : '\n' ∉ line) (cur rest : List Char) :
    linesFrom cur (line ++ '\n' :: rest) = (cur ++ line) :: linesFrom [] rest := by
  induction line generalizing cur with
  | nil => rw [List.nil_append, linesFrom, if_pos rfl, List.append_nil]
  | cons c line ih =>
    rw [List.mem_cons, not_or] at h
    rw [List.cons_append, linesFrom, if_neg (Ne.symm h.1), ih h.2, List.append_assoc]
    rfl

theorem lines_cons {line : List Char} (h : '\n' ∉ line) (rest : List Char) :
    lines (line ++ '\n' :: rest) = line :: lines rest := linesFrom_line h [] rest

theorem lines_page_append {l : List (List Char)} (h : ∀ line ∈ l, '\n' ∉ line) (rest : List Char) :
    lines (page l ++ rest) = l ++ lines rest := by
  induction l with
  | nil => rfl
  | cons line l ih =>
    rw [page_cons, List.append_assoc, List.cons_append, lines_cons (h line List.mem_cons_self),
      ih fun m hm => h m (List.mem_cons_of_mem _ hm)]
    rfl

theorem lines_page {l : List (List Char)} (h : ∀ line ∈ l, '\n' ∉ line) : lines (page l) = l := by
  have hread := lines_page_append h []
  have hnil : lines [] = [] := rfl
  rwa [List.append_nil, hnil, List.append_nil] at hread

theorem mem_linesFrom {cur s line : List Char} (hcur : '\n' ∉ cur) (h : line ∈ linesFrom cur s) : '\n' ∉ line := by
  induction s generalizing cur with
  | nil => cases h
  | cons c s ih =>
    rw [linesFrom] at h
    split_ifs at h with hc
    · rcases List.mem_cons.1 h with rfl | hrest
      · exact hcur
      · exact ih List.not_mem_nil hrest
    · refine ih ?_ h
      rw [List.mem_append, List.mem_singleton, not_or]
      exact ⟨hcur, Ne.symm hc⟩

theorem mem_lines {s line : List Char} (h : line ∈ lines s) : '\n' ∉ line := mem_linesFrom List.not_mem_nil h

/-- what ends in a newline and is cut from a page is the page of fewer lines -/
theorem take_page {l : List (List Char)} (hl : ∀ line ∈ l, '\n' ∉ line) {m : ℕ} (hm : m < (page l).length)
    (hend : ((page l).take m).getLast? = some '\n') : ∃ k < l.length, (page l).take m = page (l.take k) := by
  induction l generalizing m with
  | nil => exact absurd hm (by simp)
  | cons line l ih =>
    have hline := hl line List.mem_cons_self
    rw [page_cons] at hm hend ⊢
    rcases Nat.lt_or_ge line.length m with hlong | hshort
    · -- the first line is whole
      obtain ⟨n, rfl⟩ : ∃ n, m = line.length + 1 + n := ⟨m - line.length - 1, by omega⟩
      have htake : (line ++ '\n' :: page l).take (line.length + 1 + n) = line ++ '\n' :: (page l).take n := by
        rw [List.append_cons, show line.length + 1 + n = (line ++ ['\n']).length + n by simp, List.take_length_add_append]
        simp
      rw [htake] at hend ⊢
      have hmore : l ≠ [] := by
        rintro rfl
        simp at hm
        omega
      rcases Nat.eq_zero_or_pos n with rfl | hpos
      · exact ⟨1, Nat.succ_lt_succ (List.length_pos_of_ne_nil hmore), by simp⟩
      · have hn : n < (page l).length := by
          rw [List.length_append, List.length_cons] at hm
          omega
        have hne : (page l).take n ≠ [] := by
          rw [Ne, List.take_eq_nil_iff, not_or]
          exact ⟨by omega, List.ne_nil_of_length_pos (by omega)⟩
        have hrest : ((page l).take n).getLast? = some '\n' := by
          rw [List.getLast?_append_of_ne_nil _ (List.cons_ne_nil _ _)] at hend
          rwa [List.getLast?_cons_of_ne_nil hne] at hend
        obtain ⟨k, hk, hpage⟩ := ih (fun m hm => hl m (List.mem_cons_of_mem _ hm)) hn hrest
        refine ⟨k + 1, by rw [List.length_cons]; omega, ?_⟩
        rw [hpage, List.take_succ_cons, page_cons]
    · -- the cut is within the first line, which has no newline
      have hmem : '\n' ∈ (line ++ '\n' :: page l).take m := List.mem_of_getLast? hend
      rw [List.take_append_of_le_length hshort] at hmem
      exact absurd (List.mem_of_mem_take hmem) hline

/-! ## Families -/

structure Family where
  name : List Char
  help : List Char
  type : List Char
  /-- the sample lines -/
  samples : List (List Char)

def helpFront (name : List Char) : List Char := ['#', ' ', 'H', 'E', 'L', 'P', ' '] ++ name ++ [' ']

def typeFront (name : List Char) : List Char := ['#', ' ', 'T', 'Y', 'P', 'E', ' '] ++ name ++ [' ']

def sampleFront (name : List Char) : List Char := name ++ ['\x7b']

def Family.helpLine (f : Family) : List Char := helpFront f.name ++ f.help

def Family.typeLine (f : Family) : List Char := typeFront f.name ++ f.type

def Family.lines (f : Family) : List (List Char) := f.helpLine :: f.typeLine :: f.samples

/-- lines without newlines make a family without -/
theorem Family.lines_newline (f : Family) (htext : '\n' ∉ f.name ∧ '\n' ∉ f.help ∧ '\n' ∉ f.type)
    (hsamples : ∀ line ∈ f.samples, '\n' ∉ line) : ∀ line ∈ f.lines, '\n' ∉ line := by
  obtain ⟨hname, hhelp, htype⟩ := htext
  intro line hline
  rcases List.mem_cons.1 hline with rfl | hrest
  · simp [Family.helpLine, helpFront, hname, hhelp]
  · rcases List.mem_cons.1 hrest with rfl | hsample
    · simp [Family.typeLine, typeFront, hname, htype]
    · exact hsamples line hsample

/-- a name without the characters that end one, and samples that begin with it -/
structure Family.Named (f : Family) : Prop where
  blank : ' ' ∉ f.name
  brace : '\x7b' ∉ f.name
  hash : '#' ∉ f.name
  samples : ∀ line ∈ f.samples, sampleFront f.name <+: line

/-- the text shows every family of `fs` with exactly its lines -/
structure Complete (fs : List Family) (body : List Char) : Prop where
  ended : body.getLast? = some '\n'
  help : ∀ f ∈ fs, (lines body).filter (helpFront f.name).isPrefixOf = [f.helpLine]
  type : ∀ f ∈ fs, (lines body).filter (typeFront f.name).isPrefixOf = [f.typeLine]
  samples : ∀ f ∈ fs, (lines body).filter (sampleFront f.name).isPrefixOf = f.samples

/-- a text without the mark ends where the first mark stands -/
theorem mark_inj {a b s t : List Char} {c : Char} (ha : c ∉ a) (hb : c ∉ b) (h : a ++ c :: s = b ++ c :: t) :
    a = b ∧ s = t := by
  induction a generalizing b with
  | nil =>
    cases b with
    | nil => exact ⟨rfl, (List.cons.inj h).2⟩
    | cons d b => exact absurd (List.mem_cons.2 (Or.inl (List.cons.inj h).1)) hb
  | cons d a ih =>
    rw [List.mem_cons, not_or] at ha
    cases b with
    | nil => exact absurd (List.cons.inj h).1.symm ha.1
    | cons e b =>
      rw [List.mem_cons, not_or] at hb
      obtain ⟨rfl, htail⟩ := List.cons.inj h
      obtain ⟨rfl, rfl⟩ := ih ha.2 hb.2 htail
      exact ⟨rfl, rfl⟩

/-- so does a name in front of its end mark -/
theorem name_of_front {a b : List Char} {c : Char} (ha : c ∉ a) (hb : c ∉ b) {s : List Char}
    (h : a ++ [c] <+: b ++ c :: s) : a = b := by
  obtain ⟨t, ht⟩ := h
  rw [List.append_assoc, List.singleton_append] at ht
  exact (mark_inj ha hb ht).1

/-! ## Whose line a line is -/

/-- what begins with a name that has no hash is no comment -/
theorem not_comment {name : List Char} (h : '#' ∉ name) {c : Char} (hc : c ≠ '#') {s t : List Char}
    (heq : name ++ c :: s = '#' :: t) : False := by
  cases name with
  | nil => exact hc (List.cons.inj heq).1
  | cons d name => exact h (List.mem_cons.2 (Or.inl (List.cons.inj heq).1.symm))

theorem sample_not_comment {g : Family} (hg : g.Named) {line : List Char} (hline : line ∈ g.samples) (t : List Char) :
    line ≠ '#' :: t := by
  rintro rfl
  obtain ⟨u, hu⟩ := hg.samples _ hline
  exact not_comment hg.hash (by decide) ((List.append_assoc _ _ _).symm.trans hu)

theorem comment_not_front {f : Family} (hf : f.Named) (t : List Char) : ¬ sampleFront f.name <+: '#' :: t := by
  rintro ⟨u, hu⟩
  exact not_comment hf.hash (by decide) ((List.append_assoc _ _ _).symm.trans hu)

theorem help_not_type (f g : Family) : ¬ typeFront f.name <+: g.helpLine := by
  rintro ⟨t, ht⟩
  exact absurd (congrArg (fun l => l[2]?) ht) (by simp [helpFront, Family.helpLine, typeFront])

theorem type_not_help (f g : Family) : ¬ helpFront f.name <+: g.typeLine := by
  rintro ⟨t, ht⟩
  exact absurd (congrArg (fun l => l[2]?) ht) (by simp [helpFront, Family.typeLine, typeFront])

/-- a line with the front of a help text is the help line of that name -/
theorem help_own {f g : Family} (hf : f.Named) (hg : g.Named) {line : List Char} (hline : line ∈ g.lines)
    (h : helpFront f.name <+: line) : f.name = g.name ∧ line ∉ g.typeLine :: g.samples := by
  have hrest : line ∉ g.typeLine :: g.samples := by
    intro hmem
    rcases List.mem_cons.1 hmem with rfl | hsample
    · exact type_not_help f g h
    · obtain ⟨t, rfl⟩ := h
      exact sample_not_comment hg hsample _ rfl
  refine ⟨?_, hrest⟩
  obtain rfl := (List.mem_cons.1 hline).resolve_right hrest
  rw [Family.helpLine, helpFront, helpFront, List.append_assoc, List.append_assoc, List.append_assoc,
    List.prefix_append_right_inj] at h
  exact name_of_front hf.blank hg.blank h

theorem type_own {f g : Family} (hf : f.Named) (hg : g.Named) {line : List Char} (hline : line ∈ g.lines)
    (h : typeFront f.name <+: line) : f.name = g.name ∧ line ∉ g.samples ∧ line ≠ g.helpLine := by
  have hsamples : line ∉ g.samples := by
    intro hsample
    obtain ⟨t, rfl⟩ := h
    exact sample_not_comment hg hsample _ rfl
  have hhelp : line ≠ g.helpLine := by
    rintro rfl
    exact help_not_type f g h
  refine ⟨?_, hsamples, hhelp⟩
  obtain rfl := (List.mem_cons.1 ((List.mem_cons.1 hline).resolve_left hhelp)).resolve_right hsamples
  rw [Family.typeLine, typeFront, typeFront, List.append_assoc, List.append_assoc, List.append_assoc,
    List.prefix_append_right_inj] at h
  exact name_of_front hf.blank hg.blank h

theorem sample_own {f g : Family} (hf : f.Named) (hg : g.Named) {line : List Char} (hline : line ∈ g.lines)
    (h : sampleFront f.name <+: line) : f.name = g.name ∧ line ≠ g.helpLine ∧ line ≠ g.typeLine := by
  have hhelp : line ≠ g.helpLine := by
    rintro rfl
    exact comment_not_front hf _ h
  have htype : line ≠ g.typeLine := by
    rintro rfl
    exact comment_not_front hf _ h
  refine ⟨?_, hhelp, htype⟩
  have hsample := (List.mem_cons.1 ((List.mem_cons.1 hline).resolve_left hhelp)).resolve_left htype
  obtain ⟨u, rfl⟩ := hg.samples line hsample
  rw [sampleFront, sampleFront, List.append_assoc] at h
  exact name_of_front hf.brace hg.brace h

/-! ## A page of families -/

section Page

variable {fs : List Family}

theorem flatMap_single {α β : Type} {l : List α} (hl : l.Nodup) {a : α} (ha : a ∈ l) {f : α → List β}
    (hf : ∀ b ∈ l, b ≠ a → f b = []) : l.flatMap f = f a := by
  induction l with
  | nil => cases ha
  | cons b l ih =>
    rw [List.nodup_cons] at hl
    rw [List.flatMap_cons]
    rcases List.mem_cons.1 ha with rfl | hrest
    · have hnone : l.flatMap f = [] := by
        rw [List.flatMap_eq_nil_iff]
        intro c hc
        exact hf c (List.mem_cons_of_mem _ hc) (fun h => hl.1 (h ▸ hc))
      rw [hnone, List.append_nil]
    · have hne : b ≠ a := fun h => hl.1 (h ▸ hrest)
      rw [hf b List.mem_cons_self hne, List.nil_append,
        ih hl.2 hrest fun c hc => hf c (List.mem_cons_of_mem _ hc)]

/-- a filter that keeps lines of one family only -/
theorem filter_own (hnames : (fs.map Family.name).Nodup) {f : Family} (hf : f ∈ fs) {p : List Char → Bool}
    (hp : ∀ g ∈ fs, ∀ line ∈ g.lines, p line = true → f.name = g.name) :
    (fs.flatMap Family.lines).filter p = f.lines.filter p := by
  have hinj : ∀ g ∈ fs, g.name = f.name → g = f := fun g hg h => List.inj_on_of_nodup_map hnames hg hf h
  rw [List.filter_flatMap]
  refine flatMap_single (f := fun g => g.lines.filter p) (List.Nodup.of_map _ hnames) hf ?_
  intro g hg hne
  rw [List.filter_eq_nil_iff]
  intro line hline hkeep
  exact hne (hinj g hg (hp g hg line hline hkeep).symm)

/-- every line is found by its front -/
theorem exists_front (hnamed : ∀ f ∈ fs, f.Named) {line : List Char} (hline : line ∈ fs.flatMap Family.lines) :
    ∃ f ∈ fs, ∃ front, (front = helpFront f.name ∨ front = typeFront f.name ∨ front = sampleFront f.name) ∧ front <+: line := by
  obtain ⟨f, hf, hmem⟩ := List.mem_flatMap.1 hline
  refine ⟨f, hf, ?_⟩
  rcases List.mem_cons.1 hmem with rfl | hrest
  · exact ⟨_, Or.inl rfl, List.prefix_append _ _⟩
  · rcases List.mem_cons.1 hrest with rfl | hsample
    · exact ⟨_, Or.inr (Or.inl rfl), List.prefix_append _ _⟩
    · exact ⟨_, Or.inr (Or.inr rfl), (hnamed f hf).samples line hsample⟩

/-- what is complete shows samples without newlines -/
theorem Complete.samples_line {body : List Char} (h : Complete fs body) {f : Family} (hf : f ∈ fs)
    {line : List Char} (hline : line ∈ f.samples) : '\n' ∉ line := by
  rw [← h.samples f hf] at hline
  exact mem_lines (List.mem_of_mem_filter hline)

variable (hnamed : ∀ f ∈ fs, f.Named) (hnames : (fs.map Family.name).Nodup)
include hnamed hnames

theorem filter_help {f : Family} (hf : f ∈ fs) :
    (fs.flatMap Family.lines).filter (helpFront f.name).isPrefixOf = [f.helpLine] := by
  have hf' := hnamed f hf
  rw [filter_own hnames hf fun g hg line hline h =>
    (help_own hf' (hnamed g hg) hline (List.isPrefixOf_iff_prefix.1 h)).1]
  have hself : (helpFront f.name).isPrefixOf f.helpLine = true := List.isPrefixOf_iff_prefix.2 (List.prefix_append _ _)
  have hrest : ∀ line ∈ f.typeLine :: f.samples, ¬ (helpFront f.name).isPrefixOf line = true := fun line hline h =>
    (help_own hf' hf' (List.mem_cons_of_mem _ hline) (List.isPrefixOf_iff_prefix.1 h)).2 hline
  rw [Family.lines, List.filter_cons_of_pos hself, List.filter_eq_nil_iff.2 hrest]

theorem filter_type {f : Family} (hf : f ∈ fs) :
    (fs.flatMap Family.lines).filter (typeFront f.name).isPrefixOf = [f.typeLine] := by
  have hf' := hnamed f hf
  have hown : ∀ g ∈ fs, ∀ line ∈ g.lines, (typeFront f.name).isPrefixOf line = true →
      f.name = g.name ∧ line ∉ g.samples ∧ line ≠ g.helpLine :=
    fun g hg line hline h => type_own hf' (hnamed g hg) hline (List.isPrefixOf_iff_prefix.1 h)
  rw [filter_own hnames hf fun g hg line hline h => (hown g hg line hline h).1]
  have hself : (typeFront f.name).isPrefixOf f.typeLine = true := List.isPrefixOf_iff_prefix.2 (List.prefix_append _ _)
  have hhelp : ¬ (typeFront f.name).isPrefixOf f.helpLine = true := fun h =>
    (hown f hf _ List.mem_cons_self h).2.2 rfl
  have hrest : ∀ line ∈ f.samples, ¬ (typeFront f.name).isPrefixOf line = true := fun line hline h =>
    (hown f hf line (List.mem_cons_of_mem _ (List.mem_cons_of_mem _ hline)) h).2.1 hline
  rw [Family.lines, List.filter_cons_of_neg hhelp, List.filter_cons_of_pos hself, List.filter_eq_nil_iff.2 hrest]

theorem filter_samples {f : Family} (hf : f ∈ fs) :
    (fs.flatMap Family.lines).filter (sampleFront f.name).isPrefixOf = f.samples := by
  have hf' := hnamed f hf
  have hown : ∀ g ∈ fs, ∀ line ∈ g.lines, (sampleFront f.name).isPrefixOf line = true →
      f.name = g.name ∧ line ≠ g.helpLine ∧ line ≠ g.typeLine :=
    fun g hg line hline h => sample_own hf' (hnamed g hg) hline (List.isPrefixOf_iff_prefix.1 h)
  rw [filter_own hnames hf fun g hg line hline h => (hown g hg line hline h).1]
  have hhelp : ¬ (sampleFront f.name).isPrefixOf f.helpLine = true := fun h =>
    (hown f hf _ List.mem_cons_self h).2.1 rfl
  have htype : ¬ (sampleFront f.name).isPrefixOf f.typeLine = true := fun h =>
    (hown f hf _ (List.mem_cons_of_mem _ List.mem_cons_self) h).2.2 rfl
  have hrest : ∀ line ∈ f.samples, (sampleFront f.name).isPrefixOf line = true := fun line hline =>
    List.isPrefixOf_iff_prefix.2 (hf'.samples line hline)
  rw [Family.lines, List.filter_cons_of_neg hhelp, List.filter_cons_of_neg htype, List.filter_eq_self.2 hrest]

/-- a page without a line lacks it in that line's family -/
theorem not_complete_take (hlines : ∀ line ∈ fs.flatMap Family.lines, '\n' ∉ line) {k : ℕ}
    (hk : k < (fs.flatMap Family.lines).length) : ¬ Complete fs (page ((fs.flatMap Family.lines).take k)) := by
  intro h
  set all := fs.flatMap Family.lines with hall
  have hread : lines (page (all.take k)) = all.take k :=
    lines_page fun line hline => hlines line (List.mem_of_mem_take hline)
  -- the first line that is missing
  have hmissing : all[k] ∈ all.drop k := by
    rw [List.drop_eq_getElem_cons hk]
    exact List.mem_cons_self
  obtain ⟨f, hf, front, hfront, hprefix⟩ := exists_front hnamed (List.getElem_mem hk)
  have hsame : (all.take k).filter front.isPrefixOf = all.filter front.isPrefixOf := by
    rcases hfront with rfl | rfl | rfl
    · rw [← hread, h.help f hf, filter_help hnamed hnames hf]
    · rw [← hread, h.type f hf, filter_type hnamed hnames hf]
    · rw [← hread, h.samples f hf, filter_samples hnamed hnames hf]
  have hnone : (all.drop k).filter front.isPrefixOf = [] := by
    have hsplit := congrArg (List.filter front.isPrefixOf) (List.take_append_drop k all)
    rw [List.filter_append, ← hsame] at hsplit
    exact List.append_right_eq_self.1 hsplit
  exact List.filter_eq_nil_iff.1 hnone _ hmissing (List.isPrefixOf_iff_prefix.2 hprefix)

/-- **When a page is complete.** -/
theorem complete_iff (hne : fs ≠ []) (htext : ∀ f ∈ fs, '\n' ∉ f.name ∧ '\n' ∉ f.help ∧ '\n' ∉ f.type) (m : ℕ) :
    Complete fs ((page (fs.flatMap Family.lines)).take m) ↔
      (∀ f ∈ fs, ∀ line ∈ f.samples, '\n' ∉ line) ∧ (page (fs.flatMap Family.lines)).length ≤ m := by
  have hlines : (∀ f ∈ fs, ∀ line ∈ f.samples, '\n' ∉ line) → ∀ line ∈ fs.flatMap Family.lines, '\n' ∉ line := by
    intro hsamples line hline
    obtain ⟨f, hf, hmem⟩ := List.mem_flatMap.1 hline
    exact f.lines_newline (htext f hf) (hsamples f hf) line hmem
  refine ⟨?_, ?_⟩
  · intro h
    have hsamples : ∀ f ∈ fs, ∀ line ∈ f.samples, '\n' ∉ line := fun f hf line hline => h.samples_line hf hline
    refine ⟨hsamples, ?_⟩
    by_contra hlong
    obtain ⟨k, hk, hcut⟩ := take_page (hlines hsamples) (not_le.1 hlong) h.ended
    rw [hcut] at h
    exact not_complete_take hnamed hnames (hlines hsamples) hk h
  · rintro ⟨hsamples, hfits⟩
    have hread := lines_page (hlines hsamples)
    rw [List.take_of_length_le hfits]
    refine ⟨?_, ?_, ?_, ?_⟩
    · obtain ⟨f, fs, rfl⟩ := List.exists_cons_of_ne_nil hne
      exact page_getLast (List.cons_ne_nil _ _)
    · intro f hf
      rw [hread, filter_help hnamed hnames hf]
    · intro f hf
      rw [hread, filter_type hnamed hnames hf]
    · intro f hf
      rw [hread, filter_samples hnamed hnames hf]

end Page

end GpuHealth.Exposition
