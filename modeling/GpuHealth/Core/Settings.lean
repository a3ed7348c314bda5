/-
What a reader makes of a list of settings. General: nothing here names a program.

A setting is a key and a text, and a reader's `Rules` say what it makes of the text of each key, and for which keys a
text it rejects ends the reading.
- `Refused`: some text ends the reading.
- `value`: the last text of a key that is not rejected, converted.
- `Idle`: a setting that changes neither. Settings that are all idle can be dropped anywhere (`idle_append`), and a
  list that is not idle refuses or writes some value (`refused_or_value`).

A loop over lines `Follows` the rules when each step does what they say; `Follows.reads` is the loop rule: its state
then shows exactly what the settings of its lines refuse and write. `Follows.field_before` is the rule for a field that
a refused text leaves alone: it holds the last value in front of the first refused text (`before`).
-/
import Mathlib.Tactic

namespace GpuHealth.Settings

variable {κ τ ν : Type} [DecidableEq κ]

structure Rules (κ τ ν : Type) where
  conv : κ → τ → Option ν
  strict : κ → Bool

/-- the texts of a key, in order -/
def textsOf (l : List (κ × τ)) (k : κ) : List τ := l.filterMap fun s => if s.1 = k then some s.2 else none

def lastText (l : List (κ × τ)) (k : κ) : Option τ := (textsOf l k).getLast?

def Rules.Refuses (r : Rules κ τ ν) (s : κ × τ) : Prop := r.strict s.1 = true ∧ r.conv s.1 s.2 = none

def Rules.Refused (r : Rules κ τ ν) (l : List (κ × τ)) : Prop := ∃ s ∈ l, r.Refuses s

def Rules.value (r : Rules κ τ ν) (l : List (κ × τ)) (k : κ) : Option ν := ((textsOf l k).filterMap (r.conv k)).getLast?

/-- the settings in front of the first refused one -/
def Rules.before (r : Rules κ τ ν) (l : List (κ × τ)) : List (κ × τ) :=
  l.takeWhile fun s => !(r.strict s.1 && (r.conv s.1 s.2).isNone)

/-- a rejected text of a key whose texts may be rejected -/
def Rules.Idle (r : Rules κ τ ν) (s : κ × τ) : Prop := r.strict s.1 = false ∧ r.conv s.1 s.2 = none

@[simp] theorem textsOf_nil (k : κ) : textsOf ([] : List (κ × τ)) k = [] := rfl

theorem textsOf_cons (s : κ × τ) (l : List (κ × τ)) (k : κ) :
    textsOf (s :: l) k = if s.1 = k then s.2 :: textsOf l k else textsOf l k := by
  by_cases hk : s.1 = k <;> simp [textsOf, hk]

theorem textsOf_append (l l' : List (κ × τ)) (k : κ) : textsOf (l ++ l') k = textsOf l k ++ textsOf l' k :=
  List.filterMap_append

theorem textsOf_ne_nil {l : List (κ × τ)} {k : κ} : textsOf l k ≠ [] ↔ ∃ s ∈ l, s.1 = k := by
  rw [Ne, textsOf, List.filterMap_eq_nil_iff]
  push Not
  constructor
  · intro hsome
    obtain ⟨s, hs, hk⟩ := hsome
    exact ⟨s, hs, by by_contra hne; exact hk (if_neg hne)⟩
  · rintro ⟨s, hs, rfl⟩
    exact ⟨s, hs, by simp⟩

/-- a text for every setting, and a setting for every text -/
theorem mem_textsOf {l : List (κ × τ)} {k : κ} {t : τ} : t ∈ textsOf l k ↔ (k, t) ∈ l := by
  unfold textsOf
  rw [List.mem_filterMap]
  constructor
  · rintro ⟨s, hs, hst⟩
    split_ifs at hst with hk
    obtain rfl := Option.some.inj hst
    obtain rfl := hk
    exact hs
  · intro h
    exact ⟨(k, t), h, if_pos rfl⟩

theorem lastText_isSome {l : List (κ × τ)} {k : κ} : (lastText l k).isSome = true ↔ ∃ s ∈ l, s.1 = k := by
  rw [lastText, List.getLast?_isSome, textsOf_ne_nil]

variable (r : Rules κ τ ν)

omit [DecidableEq κ] in
@[simp] theorem not_refused_nil : ¬ r.Refused [] := by simp [Rules.Refused]

omit [DecidableEq κ] in
theorem refused_append (l l' : List (κ × τ)) : r.Refused (l ++ l') ↔ r.Refused l ∨ r.Refused l' := by
  simp only [Rules.Refused, List.mem_append, or_and_right, exists_or]

@[simp] theorem value_nil (k : κ) : r.value [] k = none := rfl

/-- a later value hides the earlier ones -/
theorem value_append (l l' : List (κ × τ)) (k : κ) : r.value (l ++ l') k = (r.value l' k).or (r.value l k) := by
  rw [Rules.value, textsOf_append, List.filterMap_append, List.getLast?_append]
  rfl

theorem value_singleton (k k' : κ) (t : τ) : r.value [(k', t)] k = if k' = k then r.conv k t else none := by
  by_cases hk : k' = k
  · rw [if_pos hk]
    cases hconv : r.conv k t <;> simp [Rules.value, textsOf, hk, hconv]
  · rw [if_neg hk]
    simp [Rules.value, textsOf, hk]

/-- of a key whose texts may not be rejected, the last text is the one that counts -/
theorem value_strict {l : List (κ × τ)} (h : ¬ r.Refused l) {k : κ} (hk : r.strict k = true) :
    r.value l k = (lastText l k).bind (r.conv k) := by
  induction l using List.reverseRecOn with
  | nil => rfl
  | append_singleton l s ih =>
    obtain ⟨k', t⟩ := s
    rw [refused_append, not_or] at h
    rw [value_append, value_singleton, ih h.1, lastText, lastText, textsOf_append, List.getLast?_append]
    by_cases hkey : k' = k
    · subst hkey
      have hconv : r.conv k' t ≠ none := fun hnone => h.2 ⟨(k', t), by simp, hk, hnone⟩
      obtain ⟨v, hv⟩ := Option.ne_none_iff_exists'.1 hconv
      simp [textsOf, hv]
    · simp [textsOf, hkey]

/-- and it does when the key occurs -/
theorem value_of_lastText {l : List (κ × τ)} (h : ¬ r.Refused l) {k : κ} (hk : r.strict k = true) {t : τ}
    (ht : lastText l k = some t) : ∃ v, r.conv k t = some v ∧ r.value l k = some v := by
  have hmem : (k, t) ∈ l := mem_textsOf.1 (List.mem_of_getLast? ht)
  have hconv : r.conv k t ≠ none := fun hnone => h ⟨(k, t), hmem, hk, hnone⟩
  obtain ⟨v, hv⟩ := Option.ne_none_iff_exists'.1 hconv
  exact ⟨v, hv, by rw [value_strict r h hk, ht, Option.bind_some, hv]⟩

theorem value_isSome {l : List (κ × τ)} (h : ¬ r.Refused l) {k : κ} (hk : r.strict k = true) :
    (r.value l k).isSome = true ↔ ∃ s ∈ l, s.1 = k := by
  rw [← lastText_isSome]
  cases ht : lastText l k with
  | none => simp [value_strict r h hk, ht]
  | some t =>
    obtain ⟨v, -, hv⟩ := value_of_lastText r h hk ht
    simp [hv]

/-! ## Settings without effect -/

theorem idle_append {l' : List (κ × τ)} (h : ∀ s ∈ l', r.Idle s) (l : List (κ × τ)) :
    (r.Refused (l ++ l') ↔ r.Refused l) ∧ ∀ k, r.value (l ++ l') k = r.value l k := by
  have hrefused : ¬ r.Refused l' := by
    rintro ⟨s, hs, hstrict, -⟩
    exact absurd ((h s hs).1.symm.trans hstrict) Bool.false_ne_true
  refine ⟨by rw [refused_append, or_iff_left hrefused], ?_⟩
  intro k
  have hnone : r.value l' k = none := by
    rw [Rules.value, List.getLast?_eq_none_iff, List.filterMap_eq_nil_iff]
    intro t ht
    exact (h (k, t) (mem_textsOf.1 ht)).2
  rw [value_append, hnone, Option.none_or]

theorem refused_or_value {l : List (κ × τ)} (h : ¬ ∀ s ∈ l, r.Idle s) : r.Refused l ∨ ∃ k v, r.value l k = some v := by
  push Not at h
  obtain ⟨s, hs, hidle⟩ := h
  cases hconv : r.conv s.1 s.2 with
  | none =>
    left
    refine ⟨s, hs, ?_, hconv⟩
    by_contra hstrict
    exact hidle ⟨Bool.eq_false_iff.2 hstrict, hconv⟩
  | some v =>
    right
    have hne : (textsOf l s.1).filterMap (r.conv s.1) ≠ [] :=
      List.ne_nil_of_mem (List.mem_filterMap.2 ⟨s.2, mem_textsOf.2 hs, hconv⟩)
    exact ⟨s.1, _, List.getLast?_eq_some_getLast hne⟩

/-! ## Keys that occur once -/

/-- the only text of its key -/
theorem textsOf_once {l : List (κ × τ)} (hkeys : (l.map Prod.fst).Nodup) {k : κ} {t : τ} (h : (k, t) ∈ l) :
    textsOf l k = [t] := by
  induction l with
  | nil => exact absurd h List.not_mem_nil
  | cons s l ih =>
    rw [List.map_cons, List.nodup_cons] at hkeys
    rcases List.mem_cons.1 h with rfl | hrest
    · have hnone : textsOf l k = [] := by
        by_contra hsome
        obtain ⟨s', hs', hk⟩ := textsOf_ne_nil.1 hsome
        exact hkeys.1 (List.mem_map.2 ⟨s', hs', hk⟩)
      rw [textsOf_cons, if_pos rfl, hnone]
    · have hother : s.1 ≠ k := by
        rintro rfl
        exact hkeys.1 (List.mem_map.2 ⟨(s.1, t), hrest, rfl⟩)
      rw [textsOf_cons, if_neg hother, ih hkeys.2 hrest]

theorem value_once {l : List (κ × τ)} (hkeys : (l.map Prod.fst).Nodup) {k : κ} {t : τ} (h : (k, t) ∈ l) :
    r.value l k = r.conv k t := by
  rw [Rules.value, textsOf_once hkeys h]
  cases hconv : r.conv k t <;> simp [hconv]

theorem value_absent {l : List (κ × τ)} {k : κ} (h : k ∉ l.map Prod.fst) : r.value l k = none := by
  have hnone : textsOf l k = [] := by
    by_contra hsome
    obtain ⟨s, hs, hk⟩ := textsOf_ne_nil.1 hsome
    exact h (List.mem_map.2 ⟨s, hs, hk⟩)
  rw [Rules.value, hnone]
  rfl

/-! ## Loops that follow the rules -/

/-- a loop over lines: the setting of a line, the step, and what its state shows -/
structure Scan (κ τ ν σ ι : Type) where
  setting : ι → Option (κ × τ)
  step : σ → ι → σ
  error : σ → Bool
  field : σ → κ → ν
  seen : σ → κ → Bool
  /-- the keys whose occurrence is kept -/
  required : κ → Bool

section Loop

variable {σ ι : Type} {r}

/-- one step does what the rules say of the line's setting -/
structure Scan.Follows (c : Scan κ τ ν σ ι) (r : Rules κ τ ν) : Prop where
  stuck : ∀ s i, c.error s = true → c.step s i = s
  skips : ∀ s i, c.setting i = none → c.step s i = s
  refuses : ∀ s i k t, c.error s = false → c.setting i = some (k, t) → r.conv k t = none → r.strict k = true →
    c.error (c.step s i) = true
  ignores : ∀ s i k t, c.error s = false → c.setting i = some (k, t) → r.conv k t = none → r.strict k = false →
    c.step s i = s
  stores : ∀ s i k t v, c.error s = false → c.setting i = some (k, t) → r.conv k t = some v →
    c.error (c.step s i) = false ∧
    (∀ k', c.field (c.step s i) k' = if k = k' then v else c.field s k') ∧
    ∀ k', c.required k' = true → c.seen (c.step s i) k' = (decide (k = k') || c.seen s k')

/-- the state `s` has read the settings `l`, from `s₀` -/
structure Scan.Reads (c : Scan κ τ ν σ ι) (r : Rules κ τ ν) (s₀ : σ) (l : List (κ × τ)) (s : σ) : Prop where
  error : c.error s = true ↔ r.Refused l
  field : ¬ r.Refused l → ∀ k, c.field s k = (r.value l k).getD (c.field s₀ k)
  seen : ¬ r.Refused l → ∀ k, c.required k = true → c.seen s k = (r.value l k).isSome

/-- a field whose texts may not be rejected shows the last text -/
theorem Scan.Reads.field_last {c : Scan κ τ ν σ ι} {s₀ s : σ} {l : List (κ × τ)} (hs : c.Reads r s₀ l s)
    (hclean : ¬ r.Refused l) {k : κ} (hk : r.strict k = true) :
    c.field s k = ((lastText l k).bind (r.conv k)).getD (c.field s₀ k) := by
  rw [hs.field hclean, value_strict r hclean hk]

/-- an error is for good -/
theorem Scan.reads_error {c : Scan κ τ ν σ ι} {s₀ s : σ} {l : List (κ × τ)} (herr : c.error s = true)
    (hl : r.Refused l) : c.Reads r s₀ l s :=
  ⟨iff_of_true herr hl, fun hno => absurd hl hno, fun hno => absurd hl hno⟩

theorem Scan.Follows.read_line {c : Scan κ τ ν σ ι} (h : c.Follows r) {s₀ s : σ} {l : List (κ × τ)}
    (hs : c.Reads r s₀ l s) (i : ι) : c.Reads r s₀ (l ++ (c.setting i).toList) (c.step s i) := by
  cases hset : c.setting i with
  | none => simpa [h.skips s i hset] using hs
  | some kt =>
    obtain ⟨k, t⟩ := kt
    rw [Option.toList_some]
    by_cases herr : c.error s = true
    · rw [h.stuck s i herr]
      exact reads_error herr ((refused_append _ _ _).2 (Or.inl (hs.error.1 herr)))
    · have hpast : ¬ r.Refused l := mt hs.error.2 herr
      have hgo : c.error s = false := Bool.eq_false_iff.2 herr
      cases hconv : r.conv k t with
      | none =>
        cases hstrict : r.strict k with
        | true =>
          exact reads_error (h.refuses s i k t hgo hset hconv hstrict)
            ((refused_append _ _ _).2 (Or.inr ⟨(k, t), List.mem_singleton_self _, hstrict, hconv⟩))
        | false =>
          have hidle : ∀ s' ∈ [(k, t)], r.Idle s' := List.forall_mem_singleton.2 ⟨hstrict, hconv⟩
          obtain ⟨hrefused, hvalue⟩ := idle_append r hidle l
          rw [h.ignores s i k t hgo hset hconv hstrict]
          refine ⟨hs.error.trans hrefused.symm, fun _ k' => ?_, fun _ k' hk' => ?_⟩
          · rw [hvalue]; exact hs.field hpast k'
          · rw [hvalue]; exact hs.seen hpast k' hk'
      | some v =>
        obtain ⟨hstays, hfield, hseen⟩ := h.stores s i k t v hgo hset hconv
        have hno : ¬ r.Refused (l ++ [(k, t)]) := by
          rw [refused_append, not_or]
          refine ⟨hpast, ?_⟩
          rintro ⟨s', hs', -, hnone⟩
          obtain rfl := List.mem_singleton.1 hs'
          rw [hconv] at hnone
          cases hnone
        refine ⟨iff_of_false (by rw [hstays]; exact Bool.false_ne_true) hno, fun _ k' => ?_, fun _ k' hk' => ?_⟩
        · rw [hfield k', value_append, value_singleton, hs.field hpast k']
          by_cases hk : k = k'
          · subst hk; simp [hconv]
          · simp [hk]
        · rw [hseen k' hk', value_append, value_singleton, hs.seen hpast k' hk']
          by_cases hk : k = k'
          · subst hk; simp [hconv]
          · simp [hk]

/-- **The loop reads its lines' settings.** -/
theorem Scan.Follows.reads {c : Scan κ τ ν σ ι} (h : c.Follows r) {s₀ : σ} (herr : c.error s₀ = false)
    (hseen : ∀ k, c.required k = true → c.seen s₀ k = false) (lines : List ι) :
    c.Reads r s₀ (lines.filterMap c.setting) (lines.foldl c.step s₀) := by
  induction lines using List.reverseRecOn with
  | nil =>
    rw [List.foldl_nil]
    exact ⟨iff_of_false (by rw [herr]; exact Bool.false_ne_true) (not_refused_nil r), fun _ _ => rfl,
      fun _ k hk => hseen k hk⟩
  | append_singleton lines i ih =>
    rw [List.filterMap_append, List.foldl_append]
    have hsingle : [i].filterMap c.setting = (c.setting i).toList := by
      cases hset : c.setting i <;> simp [hset]
    rw [hsingle]
    exact h.read_line ih i

/-- **A field that a refused text leaves alone** holds the last value in front of the first refused text. -/
theorem Scan.Follows.field_before {c : Scan κ τ ν σ ι} (h : c.Follows r) {k : κ}
    (hkeeps : ∀ s i k' t, c.error s = false → c.setting i = some (k', t) → r.conv k' t = none →
      c.field (c.step s i) k = c.field s k)
    {s : σ} (herr : c.error s = false) (lines : List ι) :
    c.field (lines.foldl c.step s) k = (r.value (r.before (lines.filterMap c.setting)) k).getD (c.field s k) := by
  induction lines generalizing s with
  | nil => rfl
  | cons i lines ih =>
    rw [List.foldl_cons]
    cases hset : c.setting i with
    | none => rw [h.skips s i hset, ih herr, List.filterMap_cons_none hset]
    | some kt =>
      obtain ⟨k', t⟩ := kt
      rw [List.filterMap_cons_some hset, Rules.before, List.takeWhile_cons]
      cases hconv : r.conv k' t with
      | none =>
        cases hstrict : r.strict k' with
        | true =>
          -- the loop is stuck from here on
          have hstuck : c.error (c.step s i) = true := h.refuses s i k' t herr hset hconv hstrict
          have hrest : lines.foldl c.step (c.step s i) = c.step s i :=
            List.foldlRecOn lines c.step (motive := fun s' => s' = c.step s i) rfl
              fun s' hs' j _ => by rw [hs', h.stuck _ j hstuck]
          simp [hrest, hkeeps s i k' t herr hset hconv]
        | false =>
          rw [h.ignores s i k' t herr hset hconv hstrict, ih herr]
          have hidle : r.value [(k', t)] k = none := by
            rw [value_singleton]
            split_ifs with hk
            · rw [← hk, hconv]
            · rfl
          simp only [Option.isNone_none, Bool.false_and, Bool.not_false, if_true]
          rw [← List.singleton_append, value_append, hidle, Option.or_none]
          rfl
      | some v =>
        obtain ⟨hstays, hfield, -⟩ := h.stores s i k' t v herr hset hconv
        rw [ih hstays, hfield k]
        simp only [Option.isNone_some, Bool.and_false, Bool.not_false, if_true]
        rw [← List.singleton_append, value_append, value_singleton]
        by_cases hk : k' = k
        · subst hk
          rw [if_pos rfl, if_pos rfl, hconv, Option.or_some]
          rfl
        · rw [if_neg hk, if_neg hk, Option.or_none]
          rfl

/-- of settings with different keys, none of them rejected, every one is stored -/
theorem Scan.Reads.once {c : Scan κ τ ν σ ι} {s₀ s : σ} {l : List (κ × τ)} (h : c.Reads r s₀ l s)
    (hkeys : (l.map Prod.fst).Nodup) (hconv : ∀ x ∈ l, r.conv x.1 x.2 ≠ none) :
    ¬ r.Refused l ∧ (∀ k t, (k, t) ∈ l → r.conv k t = some (c.field s k)) ∧
      ∀ k, k ∉ l.map Prod.fst → c.field s k = c.field s₀ k := by
  have hclean : ¬ r.Refused l := by
    rintro ⟨x, hx, -, hnone⟩
    exact hconv x hx hnone
  refine ⟨hclean, ?_, ?_⟩
  · intro k t hmem
    obtain ⟨v, hv⟩ := Option.ne_none_iff_exists'.1 (hconv (k, t) hmem)
    rw [h.field hclean k, value_once r hkeys hmem, hv, Option.getD_some]
  · intro k habsent
    rw [h.field hclean k, value_absent r habsent, Option.getD_none]

/-- settings behind `(k, t)` leave the field of `k` as it was, so the last value among them is that of `t` -/
theorem Scan.Reads.value_of_same {c : Scan κ τ ν σ ι} {s₀ s s' : σ} {l : List (κ × τ)} {k : κ} {t : τ} {v : ν}
    (hone : c.Reads r s₀ [(k, t)] s) (htwo : c.Reads r s₀ ([(k, t)] ++ l) s') (ht : r.conv k t ≠ none)
    (hclean : ¬ r.Refused l) (hv : r.value l k = some v) (hsame : c.field s' k = c.field s k) :
    r.conv k t = some v := by
  have hfirst : ¬ r.Refused [(k, t)] := by
    rintro ⟨x, hx, -, hnone⟩
    obtain rfl := List.mem_singleton.1 hx
    exact ht hnone
  obtain ⟨w, hw⟩ := Option.ne_none_iff_exists'.1 ht
  have hbefore : c.field s k = w := by
    rw [hone.field hfirst k, value_singleton, if_pos rfl, hw, Option.getD_some]
  have hafter : c.field s' k = v := by
    rw [htwo.field (by rw [refused_append, not_or]; exact ⟨hfirst, hclean⟩) k, value_append, hv, Option.some_or,
      Option.getD_some]
  rw [hw, ← hbefore, ← hsame, hafter]

/-- lines without a setting, or with idle ones, leave the state as it is -/
theorem Scan.Follows.foldl_idle {c : Scan κ τ ν σ ι} (h : c.Follows r) {lines : List ι}
    (hidle : ∀ s ∈ lines.filterMap c.setting, r.Idle s) (s : σ) : lines.foldl c.step s = s := by
  induction lines with
  | nil => rfl
  | cons i lines ih =>
    have hrest : ∀ s ∈ lines.filterMap c.setting, r.Idle s := by
      intro s hs
      rw [List.mem_filterMap] at hs
      obtain ⟨j, hj, hset⟩ := hs
      exact hidle s (List.mem_filterMap.2 ⟨j, List.mem_cons_of_mem _ hj, hset⟩)
    have hstays : c.step s i = s := by
      cases herr : c.error s with
      | true => exact h.stuck s i herr
      | false =>
        cases hset : c.setting i with
        | none => exact h.skips s i hset
        | some kt =>
          obtain ⟨hstrict, hconv⟩ := hidle kt (List.mem_filterMap.2 ⟨i, List.mem_cons_self, hset⟩)
          exact h.ignores s i kt.1 kt.2 herr hset hconv hstrict
    rw [List.foldl_cons, hstays]
    exact ih hrest

end Loop

end GpuHealth.Settings
