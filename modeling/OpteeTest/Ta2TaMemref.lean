import OpteeTest.TeeApi
import OpteeTest.EffectRuns
import Mathlib.Data.Fin.VecNotation

/-! # Memory references from one instance of the OS test TA to another

The TA has another instance of itself compute with three buffers, twice, and looks at every byte.
When one of them is wrong it returns without closing its session. -/
namespace Ta2TaMemref

open ByteMemory TeeApi TracedRun

structure Buffers where
  input : Memory UInt8
  inout : Memory UInt8
  output : Memory UInt8

def mixLoop : ℕ → Buffers → Buffers
  | 0, b => b
  | i + 1, b =>
    let b := mixLoop i b
    let inout := Function.update b.inout i (b.inout i + 1)
    ⟨b.input, inout, Function.update b.output i (inout i + b.input i)⟩

def incrValues : ℕ → Buffers → Buffers
  | 0, b => b
  | i + 1, b =>
    let b := incrValues i b
    ⟨Function.update b.input i (b.input i + 1), Function.update b.inout i (b.inout i + 1),
      Function.update b.output i (b.output i + 1)⟩

def buffersOf (params : TeeParams) : Buffers :=
  ⟨(params 0).memref.buffer, (params 1).memref.buffer, (params 2).memref.buffer⟩

def withBuffers (params : TeeParams) (b : Buffers) : TeeParams :=
  ![{ params 0 with memref := ⟨b.input, (params 0).memref.size⟩ },
    { params 1 with memref := ⟨b.inout, (params 1).memref.size⟩ },
    { params 2 with memref := ⟨b.output, (params 2).memref.size⟩ }, params 3]

def mixTypes : UInt32 := teeParamTypes .memrefInput .memrefInout .memrefOutput .none

def taEntryTa2taMemrefMix (paramTypes : UInt32) (params : TeeParams) : TeeResult × TeeParams :=
  if paramTypes ≠ mixTypes then (teeErrorGeneric, params)
  else
    let bufsize := (params 0).memref.size
    if (params 1).memref.size ≠ bufsize ∨ (params 2).memref.size ≠ bufsize then
      (teeErrorGeneric, params)
    else (teeSuccess, withBuffers params (mixLoop bufsize.toNat (buffersOf params)))

inductive TaCall where
  | openSession
  | mix (sess : ℕ) (params : TeeParams)
  | closeSession (sess : ℕ)

/-- The answer to a call, with the parameters as the other instance leaves them. -/
structure TaReply where
  res : TeeResult
  sess : ℕ
  params : TeeParams

abbrev TaApi (σ : Type) := TaCall → StateM σ TaReply

variable {σ : Type}

def ta2taBufSize : ℕ := 2048

def teeHandleNull : ℕ := 0

def initialParams : TeeParams :=
  ![⟨⟨0, 0⟩, ⟨fun _ => 5, 2048⟩⟩, ⟨⟨0, 0⟩, ⟨fun _ => 10, 2048⟩⟩, ⟨⟨0, 0⟩, ⟨fun _ => 0, 2048⟩⟩,
    ⟨⟨0, 0⟩, ⟨fun _ => 0, 0⟩⟩]

/-- The parameters after a call: the input is not written. -/
def returned (sent left : TeeParams) : TeeParams := Function.update left 0 (sent 0)

def AsExpected (b : Buffers) : Prop :=
  ∀ i < ta2taBufSize, b.input i = 6 ∧ b.inout i = 13 ∧ b.output i = 19

instance (b : Buffers) : Decidable (AsExpected b) :=
  inferInstanceAs (Decidable (∀ i < ta2taBufSize, _))

def incremented (params : TeeParams) : TeeParams :=
  withBuffers params (incrValues ta2taBufSize (buffersOf params))

def cleanup (api : TaApi σ) (sess : ℕ) (res : TeeResult) : StateM σ TeeResult := do
  let _ ← api (.closeSession sess)
  pure res

def rounds (api : TaApi σ) (sess : ℕ) : StateM σ TeeResult := do
  let r ← api (.mix sess initialParams)
  if r.res ≠ teeSuccess then cleanup api sess r.res
  else do
    let params := incremented (returned initialParams r.params)
    let r2 ← api (.mix sess params)
    if r2.res ≠ teeSuccess then cleanup api sess r2.res
    -- this way out does not pass by the label
    else if ¬ AsExpected (buffersOf (returned params r2.params)) then pure teeErrorGeneric
    else cleanup api sess r2.res

def taEntryTa2taMemref (api : TaApi σ) (paramTypes : UInt32) : StateM σ TeeResult :=
  if paramTypes ≠ teeParamTypes .none .none .none .none then pure teeErrorGeneric
  else do
    let o ← api .openSession
    if o.res ≠ teeSuccess then cleanup api teeHandleNull o.res
    else rounds api o.sess

theorem mixLoop_get (n : ℕ) (b : Buffers) : (mixLoop n b).input = b.input ∧
    ∀ i, (mixLoop n b).inout i = (if i < n then b.inout i + 1 else b.inout i) ∧
      (mixLoop n b).output i = if i < n then b.inout i + 1 + b.input i else b.output i := by
  induction n with
  | zero => exact ⟨rfl, fun i => ⟨rfl, rfl⟩⟩
  | succ n ih =>
    obtain ⟨hinput, hloop⟩ := ih
    refine ⟨hinput, fun i => ?_⟩
    dsimp only [mixLoop]
    rcases Nat.lt_trichotomy i n with hlt | rfl | hgt
    · rw [Function.update_of_ne (Nat.ne_of_lt hlt), Function.update_of_ne (Nat.ne_of_lt hlt),
        (hloop i).1, (hloop i).2, if_pos hlt, if_pos hlt, if_pos (Nat.lt_succ_of_lt hlt),
        if_pos (Nat.lt_succ_of_lt hlt)]
      exact ⟨rfl, rfl⟩
    · have hlast := (hloop i).1
      rw [if_neg (Nat.lt_irrefl i)] at hlast
      rw [Function.update_self, Function.update_self, hinput, hlast, if_pos (Nat.lt_succ_self i),
        if_pos (Nat.lt_succ_self i)]
      exact ⟨rfl, rfl⟩
    · have hnot : ¬ i < n := Nat.lt_asymm hgt
      have hge : ¬ i < n + 1 := by omega
      rw [Function.update_of_ne (Nat.ne_of_gt hgt), Function.update_of_ne (Nat.ne_of_gt hgt),
        (hloop i).1, (hloop i).2, if_neg hnot, if_neg hnot, if_neg hge, if_neg hge]
      exact ⟨rfl, rfl⟩

theorem incrValues_get (n : ℕ) (b : Buffers) (i : ℕ) :
    (incrValues n b).input i = (if i < n then b.input i + 1 else b.input i) ∧
      (incrValues n b).inout i = (if i < n then b.inout i + 1 else b.inout i) ∧
        (incrValues n b).output i = if i < n then b.output i + 1 else b.output i := by
  induction n with
  | zero => exact ⟨rfl, rfl, rfl⟩
  | succ n ih =>
    obtain ⟨hinput, hinout, houtput⟩ := ih
    dsimp only [incrValues]
    rcases eq_or_ne i n with rfl | hne
    · rw [if_neg (Nat.lt_irrefl i)] at hinput hinout houtput
      rw [Function.update_self, Function.update_self, Function.update_self, hinput, hinout,
        houtput, if_pos (Nat.lt_succ_self i), if_pos (Nat.lt_succ_self i),
        if_pos (Nat.lt_succ_self i)]
      exact ⟨rfl, rfl, rfl⟩
    · have hiff : (i < n + 1) = (i < n) := propext (by omega)
      rw [Function.update_of_ne hne, Function.update_of_ne hne, Function.update_of_ne hne, hinput,
        hinout, houtput]
      simp only [hiff, and_self]

structure Holds (params : TeeParams) (a b c : UInt8) : Prop where
  size : (params 0).memref.size = 2048 ∧ (params 1).memref.size = 2048 ∧
    (params 2).memref.size = 2048
  bytes : ∀ i < ta2taBufSize, (params 0).memref.buffer i = a ∧ (params 1).memref.buffer i = b ∧
    (params 2).memref.buffer i = c

variable {params : TeeParams} {a b c : UInt8}

theorem mix_holds (h : Holds params a b c) :
    (taEntryTa2taMemrefMix mixTypes params).1 = teeSuccess ∧
      Holds (returned params (taEntryTa2taMemrefMix mixTypes params).2) a (b + 1) (b + 1 + a) := by
  obtain ⟨hzero, hone, htwo⟩ := h.size
  have hmix : taEntryTa2taMemrefMix mixTypes params =
      (teeSuccess, withBuffers params (mixLoop ta2taBufSize (buffersOf params))) := by
    unfold taEntryTa2taMemrefMix
    rw [if_neg (not_not.mpr rfl), if_neg, hzero]
    · rfl
    · rw [hzero, hone, htwo]
      exact fun hne => hne.elim (fun hne => hne rfl) fun hne => hne rfl
  rw [hmix]
  refine ⟨rfl, ⟨hzero, hone, htwo⟩, fun i hi => ?_⟩
  obtain ⟨ha, hb, -⟩ := h.bytes i hi
  have hget := (mixLoop_get ta2taBufSize (buffersOf params)).2 i
  rw [if_pos hi, if_pos hi] at hget
  refine ⟨ha, hget.1.trans ?_, hget.2.trans ?_⟩
  · exact congrArg (· + 1) hb
  · exact congrArg₂ (· + 1 + ·) hb ha

theorem incremented_holds (h : Holds params a b c) :
    Holds (incremented params) (a + 1) (b + 1) (c + 1) := by
  refine ⟨h.size, fun i hi => ?_⟩
  obtain ⟨ha, hb, hc⟩ := h.bytes i hi
  have hget := incrValues_get ta2taBufSize (buffersOf params) i
  rw [if_pos hi, if_pos hi, if_pos hi] at hget
  exact ⟨hget.1.trans (congrArg (· + 1) ha), hget.2.1.trans (congrArg (· + 1) hb),
    hget.2.2.trans (congrArg (· + 1) hc)⟩

def firstReply (api : TaApi σ) (sess : ℕ) (s : σ) : TaReply × σ := api (.mix sess initialParams) s

def secondParams (api : TaApi σ) (sess : ℕ) (s : σ) : TeeParams :=
  incremented (returned initialParams (firstReply api sess s).1.params)

def secondReply (api : TaApi σ) (sess : ℕ) (s : σ) : TaReply × σ :=
  api (.mix sess (secondParams api sess s)) (firstReply api sess s).2

def finalBuffers (api : TaApi σ) (sess : ℕ) (s : σ) : Buffers :=
  buffersOf (returned (secondParams api sess s) (secondReply api sess s).1.params)

structure Mismatch (api : TaApi σ) (sess : ℕ) (s : σ) : Prop where
  first : (firstReply api sess s).1.res = teeSuccess
  second : (secondReply api sess s).1.res = teeSuccess
  wrong : ¬ AsExpected (finalBuffers api sess s)

theorem rounds_first (api : TaApi σ) (sess : ℕ) (s : σ)
    (h : (firstReply api sess s).1.res ≠ teeSuccess) : rounds api sess s =
      cleanup api sess (firstReply api sess s).1.res (firstReply api sess s).2 :=
  congrFun (if_pos h) (firstReply api sess s).2

theorem rounds_second (api : TaApi σ) (sess : ℕ) (s : σ)
    (h : (firstReply api sess s).1.res = teeSuccess) : rounds api sess s =
      (if (secondReply api sess s).1.res ≠ teeSuccess then
        cleanup api sess (secondReply api sess s).1.res
      else if ¬ AsExpected (finalBuffers api sess s) then pure teeErrorGeneric
      else cleanup api sess (secondReply api sess s).1.res : StateM σ TeeResult)
        (secondReply api sess s).2 :=
  congrFun (if_neg (not_not.mpr h)) (firstReply api sess s).2

theorem rounds_cases (api : TaApi σ) (sess : ℕ) (s : σ) :
    (Mismatch api sess s ∧ rounds api sess s = (teeErrorGeneric, (secondReply api sess s).2)) ∨
    (¬ Mismatch api sess s ∧ ∃ res s', rounds api sess s = cleanup api sess res s') := by
  by_cases hfirst : (firstReply api sess s).1.res = teeSuccess
  · rw [rounds_second api sess s hfirst]
    split_ifs with hsecond hwrong
    · exact Or.inr ⟨fun h => hsecond h.second, _, _, rfl⟩
    · exact Or.inr ⟨fun h => h.wrong hwrong, _, _, rfl⟩
    · exact Or.inl ⟨⟨hfirst, not_not.mp hsecond, hwrong⟩, rfl⟩
  · exact Or.inr ⟨fun h => hfirst h.first, _, _, rounds_first api sess s hfirst⟩

/-- The types of a test that is not refused. -/
abbrev testTypes : UInt32 := teeParamTypes .none .none .none .none

theorem test_opened (api : TaApi σ) (s : σ) (h : (api .openSession s).1.res = teeSuccess) :
    taEntryTa2taMemref api testTypes s =
      rounds api (api .openSession s).1.sess (api .openSession s).2 := by
  unfold taEntryTa2taMemref
  rw [if_neg (not_not.mpr rfl)]
  exact congrFun (if_neg (not_not.mpr h)) (api .openSession s).2

theorem test_unopened (api : TaApi σ) (s : σ) (h : (api .openSession s).1.res ≠ teeSuccess) :
    taEntryTa2taMemref api testTypes s =
      cleanup api teeHandleNull (api .openSession s).1.res (api .openSession s).2 := by
  unfold taEntryTa2taMemref
  rw [if_neg (not_not.mpr rfl)]
  exact congrFun (if_pos h) (api .openSession s).2

def traced (api : TaApi σ) : TaCall → Traced σ TaCall TaReply := fun c => act c (api c)

/-- The session of this answer was opened and not closed. -/
def LeftOpen (o : TaReply) (calls : List TaCall) : Prop :=
  o.res = teeSuccess ∧ .openSession ∈ calls ∧ .closeSession o.sess ∉ calls

/-- The session stays open exactly when both calls succeed and a byte is wrong. -/
theorem left_open_iff (api : TaApi σ) (paramTypes : UInt32) (s : σ) :
    LeftOpen (api .openSession s).1 (taEntryTa2taMemref (traced api) paramTypes (s, [])).2.2 ↔
      paramTypes = testTypes ∧ (api .openSession s).1.res = teeSuccess ∧
        Mismatch api (api .openSession s).1.sess (api .openSession s).2 := by
  by_cases htypes : paramTypes = testTypes
  · rw [htypes, and_iff_right rfl]
    by_cases hopen : (api .openSession s).1.res = teeSuccess
    · rw [and_iff_right hopen, test_opened (traced api) (s, []) hopen]
      rcases rounds_cases (traced api) (api .openSession s).1.sess
        ((api .openSession s).2, [.openSession]) with ⟨hwrong, hout⟩ | ⟨hright, res, s', hout⟩
      · have hcalls : (rounds (traced api) (api .openSession s).1.sess
            ((api .openSession s).2, [.openSession])).2.2 =
              [.openSession, .mix _ _, .mix _ _] := congrArg (fun out => out.2.2) hout
        refine iff_of_true ⟨hopen, ?_⟩ ⟨hwrong.first, hwrong.second, hwrong.wrong⟩
        exact hcalls ▸ ⟨List.mem_cons_self, by simp⟩
      · have hcalls : (rounds (traced api) (api .openSession s).1.sess
            ((api .openSession s).2, [.openSession])).2.2 =
              s'.2 ++ [.closeSession (api .openSession s).1.sess] :=
          congrArg (fun out => out.2.2) hout
        refine iff_of_false (fun hleft => hleft.2.2 ?_) fun hwrong =>
          hright ⟨hwrong.first, hwrong.second, hwrong.wrong⟩
        exact hcalls ▸ List.mem_append_right _ List.mem_cons_self
    · exact iff_of_false (fun hleft => hopen hleft.1) fun hn => hopen hn.1
  · unfold taEntryTa2taMemref
    rw [if_pos htypes]
    exact iff_of_false (fun hleft => absurd hleft.2.1 List.not_mem_nil) fun hn => htypes hn.1

def ThroughMix (api : TaApi σ) : Prop := ∀ sess params s,
  (api (.mix sess params) s).1.res = (taEntryTa2taMemrefMix mixTypes params).1 ∧
    (api (.mix sess params) s).1.params = (taEntryTa2taMemrefMix mixTypes params).2

theorem rounds_pass {api : TaApi σ} (hmix : ThroughMix api) (sess : ℕ) (s : σ) :
    ∃ s', rounds api sess s = cleanup api sess teeSuccess s' := by
  have hinitial : Holds initialParams 5 10 0 :=
    ⟨⟨rfl, rfl, rfl⟩, fun i _ => ⟨rfl, rfl, rfl⟩⟩
  obtain ⟨hr, hp⟩ := hmix sess initialParams s
  obtain ⟨hres, hfirst⟩ := mix_holds hinitial
  rw [← hp] at hfirst
  obtain ⟨hr2, hp2⟩ := hmix sess (secondParams api sess s) (firstReply api sess s).2
  obtain ⟨hres2, hsecond⟩ := mix_holds (incremented_holds hfirst)
  have hparams : secondParams api sess s =
    incremented (returned initialParams (api (.mix sess initialParams) s).1.params) := rfl
  rw [← hparams] at hres2 hsecond
  rw [← hp2] at hsecond
  have hexpected : AsExpected (finalBuffers api sess s) := hsecond.bytes
  have hgood : (secondReply api sess s).1.res = teeSuccess := hr2.trans hres2
  refine ⟨(secondReply api sess s).2, ?_⟩
  rw [rounds_second api sess s (hr.trans hres), if_neg (not_not.mpr hgood),
    if_neg (not_not.mpr hexpected), hgood]

/-- Through its own command the test succeeds whenever its session opens. -/
theorem test_passes (api : TaApi σ) (hmix : ThroughMix api) (s : σ) :
    (taEntryTa2taMemref api testTypes s).1 = (api .openSession s).1.res := by
  by_cases hopen : (api .openSession s).1.res = teeSuccess
  · obtain ⟨s', hrun⟩ := rounds_pass hmix (api .openSession s).1.sess (api .openSession s).2
    rw [test_opened api s hopen, hrun, hopen]
    rfl
  · rw [test_unopened api s hopen]
    rfl

def passing : TaApi Unit := fun call s => match call with
  | .mix _ params => (⟨(taEntryTa2taMemrefMix mixTypes params).1, 0,
      (taEntryTa2taMemrefMix mixTypes params).2⟩, s)
  | _ => (⟨teeSuccess, 1, initialParams⟩, s)

theorem passing_passes : (taEntryTa2taMemref passing testTypes ()).1 = teeSuccess :=
  test_passes passing (fun _ _ _ => ⟨rfl, rfl⟩) ()

end Ta2TaMemref
