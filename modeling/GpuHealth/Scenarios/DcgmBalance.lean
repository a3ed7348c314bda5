/-
Whether every DCGM acquisition is released, on every path through startup and orderly shutdown.

The property (`Balanced`): as many Shutdown calls as successful Init calls, as many Disconnect calls as successful
Connect calls, each release after its acquisition and none after the library is unloaded. It fails. `main` calls Init
after loading the library, `dcgm_setup` calls it again, and each run makes one Shutdown call at most
(`two_inits_one_shutdown`); the exits of `main` between the two make none.

- `balanced_iff`: for every answer of every call, the run is balanced if and only if it does not get to an Init in
  `main` that succeeds.
- `enumerate_balanced`: what follows that Init is balanced by itself, whatever fails in it. Only the call in `main` is
  never released.
-/
import GpuHealth.Lifecycle

namespace GpuHealth.DcgmBalance

open GpuHealth.Nvml GpuHealth.Lifecycle

/-! ## The property -/

structure Balanced (log : List DcgmCall) : Prop where
  shutdowns : log.count .shutdown = log.count (.init 0)
  disconnects : log.count .disconnect = log.count (.connect 0)
  /-- at no time more releases than acquisitions -/
  after : ∀ pre, pre <+: log →
    pre.count .shutdown ≤ pre.count (.init 0) ∧ pre.count .disconnect ≤ pre.count (.connect 0)
  /-- no release from an unloaded library -/
  loaded : ∀ pre post, log = pre ++ .unload :: post → .shutdown ∉ post ∧ .disconnect ∉ post

/-- the run gets to the Init in `main`, and it succeeds -/
def MainInits (env : StartupEnv) : Prop :=
  env.configured = true ∧ env.nvmlLoaded = true ∧ env.nvmlInit = 0 ∧ env.dcgmLoaded = true ∧ env.mainInit = 0

/-! ## Calls that hold nothing -/

/-- neither an acquisition nor a release -/
def Neutral : DcgmCall → Prop
  | .groupCreate _ => True
  | .groupAddDevice _ _ => True
  | .fieldGroupCreate _ => True
  | .watchFields _ => True
  | _ => False

theorem addDevices_neutral (env : StartupEnv) (gpuIds : List ℕ) : ∀ c ∈ (addDevices env gpuIds).2, Neutral c := by
  induction gpuIds with
  | nil => simp [addDevices]
  | cons gpuId gpuIds ih =>
    rw [addDevices]
    split_ifs
    · exact List.forall_mem_singleton.2 trivial
    · exact List.forall_mem_cons.2 ⟨trivial, ih⟩

theorem watchGroup_neutral (env : StartupEnv) (gpuIds : List ℕ) : ∀ c ∈ (watchGroup env gpuIds).2, Neutral c := by
  have hdevices := addDevices_neutral env gpuIds
  unfold watchGroup
  dsimp only
  split_ifs <;>
    simp only [List.forall_mem_append, List.forall_mem_cons, List.not_mem_nil, false_implies, implies_true, and_true]
  · trivial
  · exact ⟨⟨trivial, hdevices⟩, trivial⟩
  · exact ⟨⟨trivial, hdevices⟩, trivial, trivial⟩
  · exact ⟨⟨trivial, hdevices⟩, trivial, trivial⟩
  · exact ⟨trivial, hdevices⟩

/-- such calls are counted nowhere -/
theorem count_neutral {mid : List DcgmCall} (h : ∀ c ∈ mid, Neutral c) {c : DcgmCall} (hc : ¬ Neutral c) :
    mid.count c = 0 :=
  List.count_eq_zero.2 fun hmem => hc (h c hmem)

/-! ## The logs -/

/-- nothing acquired and nothing released -/
theorem balanced_idle {log : List DcgmCall} (hinit : .init 0 ∉ log) (hconnect : .connect 0 ∉ log)
    (hshutdown : .shutdown ∉ log) (hdisconnect : .disconnect ∉ log) : Balanced log where
  shutdowns := by rw [List.count_eq_zero.2 hshutdown, List.count_eq_zero.2 hinit]
  disconnects := by rw [List.count_eq_zero.2 hdisconnect, List.count_eq_zero.2 hconnect]
  after := fun pre hpre => by
    rw [List.count_eq_zero.2 fun hmem => hshutdown (hpre.subset hmem),
      List.count_eq_zero.2 fun hmem => hdisconnect (hpre.subset hmem)]
    exact ⟨Nat.zero_le _, Nat.zero_le _⟩
  loaded := fun pre post heq => by
    refine ⟨fun hmem => hshutdown ?_, fun hmem => hdisconnect ?_⟩ <;> rw [heq] <;> simp [hmem]

/-- what comes behind the only unload -/
theorem post_eq_nil {body pre post : List DcgmCall} (hbody : .unload ∉ body)
    (h : body ++ [.unload] = pre ++ .unload :: post) : post = [] := by
  rcases List.eq_nil_or_concat post with rfl | ⟨post', c, rfl⟩
  · rfl
  · rw [List.concat_eq_append, ← List.cons_append, ← List.append_assoc] at h
    refine absurd ?_ hbody
    rw [(List.append_inj' h rfl).1]
    simp

/-- a connection that was held, and the library unloaded behind it -/
theorem balanced_connected {mid : List DcgmCall} (h : ∀ c ∈ mid, Neutral c) :
    Balanced (.init 0 :: .connect 0 :: (mid ++ [.disconnect, .shutdown, .unload])) := by
  have hinit := count_neutral h (c := .init 0) id
  have hconnect := count_neutral h (c := .connect 0) id
  have hdisconnect := count_neutral h (c := .disconnect) id
  have hshutdown := count_neutral h (c := .shutdown) id
  refine ⟨?_, ?_, ?_, ?_⟩
  · simp [hinit, hshutdown]
  · simp [hconnect, hdisconnect]
  · intro pre hpre
    have hdown : pre.count .shutdown ≤ 1 := by
      refine (hpre.sublist.count_le _).trans ?_
      simp [hshutdown]
    have hout : pre.count .disconnect ≤ 1 := by
      refine (hpre.sublist.count_le _).trans ?_
      simp [hdisconnect]
    rcases pre with _ | ⟨c, _ | ⟨c', pre⟩⟩
    · simp
    · obtain ⟨rfl, -⟩ := List.cons_prefix_cons.1 hpre
      simp
    · obtain ⟨rfl, hrest⟩ := List.cons_prefix_cons.1 hpre
      obtain ⟨rfl, -⟩ := List.cons_prefix_cons.1 hrest
      refine ⟨hdown.trans ?_, hout.trans ?_⟩ <;> exact List.count_pos_iff.2 (by simp)
  · intro pre post heq
    have hbody : DcgmCall.unload ∉ .init 0 :: .connect 0 :: (mid ++ [.disconnect, .shutdown]) := by
      simp only [List.mem_cons, List.mem_append, reduceCtorEq, List.not_mem_nil, false_or, or_false]
      exact fun hmem => h .unload hmem
    rw [post_eq_nil hbody (show _ = pre ++ .unload :: post by simpa using heq)]
    simp

/-- a connection that failed, and the library unloaded behind its Shutdown -/
theorem balanced_unconnected {ret : ℤ} (h : ret ≠ 0) : Balanced [.init 0, .connect ret, .shutdown, .unload] where
  shutdowns := by simp
  disconnects := by simp [h]
  after := fun pre hpre => by
    have hdown : pre.count .shutdown ≤ 1 := (hpre.sublist.count_le _).trans (by simp)
    have hout : pre.count .disconnect ≤ 0 := (hpre.sublist.count_le _).trans (by simp)
    refine ⟨?_, hout.trans (Nat.zero_le _)⟩
    rcases pre with _ | ⟨c, pre⟩
    · simp
    · obtain ⟨rfl, -⟩ := List.cons_prefix_cons.1 hpre
      exact hdown.trans (List.count_pos_iff.2 (by simp))
  loaded := fun pre post heq => by
    have hbody : DcgmCall.unload ∉ [.init 0, .connect ret, .shutdown] := by simp
    rw [post_eq_nil hbody heq]
    simp

/-! ## The paths -/

/-- **Everything `dcgm_setup` can do**: Init or Connect fails, the group is watched, or it is given up. -/
theorem dcgmSetup_cases (env : StartupEnv) (gpuIds : List ℕ) :
    (∃ ret, ret ≠ 0 ∧ dcgmSetup env gpuIds = (-1, [.init ret])) ∨
    (∃ ret, ret ≠ 0 ∧ dcgmSetup env gpuIds = (-1, [.init 0, .connect ret, .shutdown])) ∨
    ∃ mid, (∀ c ∈ mid, Neutral c) ∧ (dcgmSetup env gpuIds = (0, .init 0 :: .connect 0 :: mid) ∨
      dcgmSetup env gpuIds = (-1, .init 0 :: .connect 0 :: (mid ++ [.disconnect, .shutdown]))) := by
  unfold dcgmSetup
  by_cases hinit : env.setupInit = 0
  · by_cases hconnect : env.connect = 0
    · refine Or.inr (Or.inr ⟨(watchGroup env gpuIds).2, watchGroup_neutral env gpuIds, ?_⟩)
      rw [if_neg (not_not.2 hinit), if_neg (not_not.2 hconnect), hinit, hconnect]
      dsimp only
      cases (watchGroup env gpuIds).1 with
      | true => exact Or.inl rfl
      | false => exact Or.inr rfl
    · refine Or.inr (Or.inl ⟨env.connect, hconnect, ?_⟩)
      rw [if_neg (not_not.2 hinit), if_pos hconnect, hinit]
  · exact Or.inl ⟨env.setupInit, hinit, if_pos hinit⟩

/-- the calls of `main` from `dcgm_setup` to its exit -/
def setupLog (env : StartupEnv) (gpuIds : List ℕ) : List DcgmCall :=
  let (ret, setup) := dcgmSetup env gpuIds
  if ret = 0 then setup ++ dcgmTeardown ++ [.unload] else setup ++ [.unload]

theorem setupLog_balanced (env : StartupEnv) (gpuIds : List ℕ) : Balanced (setupLog env gpuIds) := by
  unfold setupLog
  rcases dcgmSetup_cases env gpuIds with ⟨ret, hret, heq⟩ | ⟨ret, hret, heq⟩ | ⟨mid, hmid, heq | heq⟩
  · rw [heq]
    exact balanced_idle (by simpa using Ne.symm hret) (by simp) (by simp) (by simp)
  · rw [heq]
    exact balanced_unconnected hret
  · rw [heq]
    simpa [dcgmTeardown] using balanced_connected hmid
  · rw [heq]
    simpa using balanced_connected hmid

/-- the enumeration fails, or all of `dcgm_setup` and `shutdown_all` follows -/
theorem mainEnumerate_tentative (env : StartupEnv) :
    (mainEnumerate env (-1)).2 = [] ∨ ∃ gpuIds, (mainEnumerate env (-1)).2 = setupLog env gpuIds := by
  unfold mainEnumerate setupLog
  dsimp only
  by_cases hcount : env.deviceGetCount.ret ≠ 0 ∨ env.deviceGetCount.val = 0
  · left
    rw [if_pos hcount]
  rw [if_neg hcount]
  by_cases hgpus : env.gpusAllocated = true
  · rw [if_neg (not_not.2 hgpus)]
    by_cases hids : env.gpuIdsAllocated = true
    · right
      rw [if_neg (not_not.2 hids)]
      refine ⟨List.range (intOfU32 env.deviceGetCount.val).toNat, ?_⟩
      rw [if_pos rfl]
      -- the exit code differs with the child, the calls do not
      split_ifs <;> simp [shutdownAll]
    · left
      rw [if_pos hids]
  · left
    rw [if_pos hgpus]

/-- **What follows the Init in `main` is balanced by itself**, on every path. -/
theorem enumerate_balanced (env : StartupEnv) : Balanced (mainEnumerate env (-1)).2 := by
  rcases mainEnumerate_tentative env with heq | ⟨gpuIds, heq⟩
  · rw [heq]
    exact balanced_idle List.not_mem_nil List.not_mem_nil List.not_mem_nil List.not_mem_nil
  · rw [heq]
    exact setupLog_balanced env gpuIds

/-- without DCGM, `main` makes no call of it -/
theorem mainEnumerate_without (env : StartupEnv) : (mainEnumerate env 0).2 = [] := by
  unfold mainEnumerate
  dsimp only
  split_ifs <;> first | rfl | contradiction

/-! ## The condition -/

/-- the calls of a run, by whether its Init in `main` succeeds -/
theorem exporterMain_calls (env : StartupEnv) :
    (MainInits env ∧ (exporterMain env).2 = .init 0 :: (mainEnumerate env (-1)).2) ∨
    (¬ MainInits env ∧ ((exporterMain env).2 = [] ∨ (exporterMain env).2 = [.init env.mainInit, .unload] ∧
      env.mainInit ≠ 0)) := by
  unfold exporterMain MainInits
  dsimp only
  by_cases hconfigured : env.configured = true
  · by_cases hnvml : env.nvmlLoaded = true
    · by_cases hinit : env.nvmlInit = 0
      · by_cases hdcgm : env.dcgmLoaded = true
        · by_cases hmain : env.mainInit = 0
          · simp [hconfigured, hnvml, hinit, hdcgm, hmain]
          · simp [hconfigured, hnvml, hinit, hdcgm, hmain, mainEnumerate_without]
        · simp [hconfigured, hnvml, hinit, hdcgm, mainEnumerate_without]
      · simp [hconfigured, hnvml, hinit]
    · simp [hconfigured, hnvml]
  · simp [hconfigured]

/-- **When the DCGM lifecycle is balanced.** Whatever the calls answer: if and only if no Init of `main` succeeds. -/
theorem balanced_iff (env : StartupEnv) : Balanced (exporterMain env).2 ↔ ¬ MainInits env := by
  rcases exporterMain_calls env with ⟨hinits, heq⟩ | ⟨hno, heq | ⟨heq, hret⟩⟩
  · refine iff_of_false ?_ (not_not.2 hinits)
    intro hbalanced
    have hrest := (enumerate_balanced env).shutdowns
    have hall := hbalanced.shutdowns
    rw [heq, List.count_cons_self, List.count_cons_of_ne (by simp), hrest] at hall
    omega
  · rw [heq]
    exact iff_of_true (balanced_idle List.not_mem_nil List.not_mem_nil List.not_mem_nil List.not_mem_nil) hno
  · rw [heq]
    exact iff_of_true (balanced_idle (by simpa using Ne.symm hret) (by simp) (by simp) (by simp)) hno

/-! ## Every call succeeds -/

/-- one GPU, and nothing fails -/
def allWell : StartupEnv where
  configured := true
  nvmlLoaded := true
  nvmlInit := 0
  dcgmLoaded := true
  mainInit := 0
  setupInit := 0
  connect := 0
  groupCreate := 0
  groupAddDevice := fun _ => 0
  fieldGroupCreate := 0
  watchFields := 0
  deviceGetCount := ⟨0, 1⟩
  gpusAllocated := true
  gpuIdsAllocated := true
  childSpawned := true

/-- Two Init calls succeed, and there is one Shutdown. -/
theorem two_inits_one_shutdown :
    exporterMain allWell = (0, [.init 0, .init 0, .connect 0, .groupCreate 0, .groupAddDevice 0 0, .fieldGroupCreate 0,
      .watchFields 0, .disconnect, .shutdown, .unload]) ∧
    ¬ Balanced (exporterMain allWell).2 := by
  have hlog : exporterMain allWell = (0, [.init 0, .init 0, .connect 0, .groupCreate 0, .groupAddDevice 0 0,
      .fieldGroupCreate 0, .watchFields 0, .disconnect, .shutdown, .unload]) := by decide +kernel
  refine ⟨hlog, ?_⟩
  intro hbalanced
  have hcounts := hbalanced.shutdowns
  rw [hlog] at hcounts
  exact absurd hcounts (by decide)

end GpuHealth.DcgmBalance
