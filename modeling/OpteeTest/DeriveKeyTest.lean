import OpteeTest.TeeApi
import OpteeTest.EffectRuns
import Mathlib.Data.List.Forall2

/-! # Commands that go through the system PTA

The key test asks for keys of many sizes and keeps a verdict. It and two commands that only pass
their parameters on open a session to the PTA and have to close it again. -/
namespace DeriveKeyTest

open ByteMemory TeeApi TracedRun

/-- The calls of a command. A key is asked for with a size and a number of bytes of the extra
data, none when that is zero. -/
inductive PtaCall where
  | openSession
  | derive (sess keySize extraSize : ℕ)
  | passOn (sess commandId : ℕ) (params : TeeParams)
  | closeSession (sess : ℕ)

structure PtaReply where
  res : TeeResult
  sess : ℕ
  key : List UInt8

abbrev PtaApi (σ : Type) := PtaCall → StateM σ PtaReply

variable {σ : Type}

def teeHandleNull : ℕ := 0

def taDerivedKeyMinSize : ℕ := 16
def taDerivedKeyMaxSize : ℕ := 32
def taDerivedExtraDataMaxSize : ℕ := 1024

def sizeofExtra : ℕ := 14

def keyOf (r : PtaReply) : List UInt8 := slice (copyIn (fun _ => 0) 0 r.key) 0 32

def noting (bad : Prop) [Decidable bad] (final : TeeResult) : TeeResult :=
  if bad then teeErrorGeneric else final

def extraFor (i : ℕ) : ℕ := if i % 2 ≠ 0 then sizeofExtra else 0

def testLimits (api : PtaApi σ) (sess : ℕ) : List ℕ → TeeResult → StateM σ TeeResult
  | [], final => pure final
  | i :: is, final => do
    let r ← api (.derive sess i (extraFor i))
    if i < taDerivedKeyMinSize then
      if r.res ≠ teeSuccess then testLimits api sess is final else pure teeErrorGeneric
    else if i > taDerivedKeyMaxSize then
      if r.res ≠ teeSuccess then testLimits api sess is final else pure teeErrorGeneric
    else if r.res ≠ teeSuccess then pure teeErrorGeneric
    else testLimits api sess is final

/-- The checks of `derive_ta_unique_key_test`, between its open and its close. -/
def testKeys (api : PtaApi σ) (sess : ℕ) : StateM σ TeeResult := do
  let a ← api (.derive sess 32 0)
  let final := noting (a.res ≠ teeSuccess) teeSuccess
  let b ← api (.derive sess 32 0)
  let final := noting (b.res ≠ teeSuccess) final
  let final := noting (keyOf a ≠ keyOf b) final
  let c ← api (.derive sess 32 sizeofExtra)
  let final := noting (c.res ≠ teeSuccess) final
  let d ← api (.derive sess 32 sizeofExtra)
  let final := noting (d.res ≠ teeSuccess) final
  let final := noting (keyOf c ≠ keyOf d) final
  let e ← api (.derive sess 32 sizeofExtra)
  let final := noting (e.res ≠ teeSuccess) final
  let f ← api (.derive sess 32 0)
  let final := noting (f.res ≠ teeSuccess) final
  let final := noting (keyOf e = keyOf f) final
  let g ← api (.derive sess 32 (taDerivedExtraDataMaxSize + 1))
  let final := noting (g.res = teeSuccess) final
  testLimits api sess (List.range 64) final

def noTypes : UInt32 := teeParamTypes .none .none .none .none

def deriveTaUniqueKeyTest (api : PtaApi σ) (paramTypes : UInt32) : StateM σ TeeResult :=
  if paramTypes ≠ noTypes then pure teeErrorBadParameters
  else do
    let o ← api .openSession
    if o.res ≠ teeSuccess then pure o.res
    else do
      let final ← testKeys api o.sess
      let _ ← api (.closeSession o.sess)
      pure final

def ptaSystemAddRngEntropy : ℕ := 0
def ptaSystemDeriveTaUniqueKey : ℕ := 1

def deriveTaUniqueKeyTestShm (api : PtaApi σ) (paramTypes : UInt32) (params : TeeParams) :
    StateM σ TeeResult :=
  if paramTypes ≠ teeParamTypes .memrefInput .memrefOutput .none .none then
    pure teeErrorBadParameters
  else do
    let o ← api .openSession
    if o.res ≠ teeSuccess then pure o.res
    else do
      let r ← api (.passOn o.sess ptaSystemDeriveTaUniqueKey params)
      let _ ← api (.closeSession o.sess)
      pure r.res

def seedRngPool (api : PtaApi σ) (paramTypes : UInt32) (params : TeeParams) :
    StateM σ TeeResult :=
  if paramTypes ≠ teeParamTypes .memrefInput .none .none .none then pure teeErrorBadParameters
  else if (params 0).memref.size = 0 then pure teeErrorBadParameters
  else do
    let o ← api .openSession
    if o.res ≠ teeSuccess then do
      let _ ← api (.closeSession teeHandleNull)
      pure o.res
    else do
      let r ← api (.passOn o.sess ptaSystemAddRngEntropy params)
      let _ ← api (.closeSession o.sess)
      pure r.res

/-- The requests of the test when it does not stop early. -/
def requests : List (ℕ × ℕ) :=
  [(32, 0), (32, 0), (32, sizeofExtra), (32, sizeofExtra), (32, sizeofExtra), (32, 0),
    (32, taDerivedExtraDataMaxSize + 1)] ++ (List.range 64).map fun i => (i, extraFor i)

def ask (api : PtaApi σ) (sess : ℕ) : List (ℕ × ℕ) → σ → List PtaReply
  | [], _ => []
  | (n, x) :: rest, s =>
    (api (.derive sess n x) s).1 :: ask api sess rest (api (.derive sess n x) s).2

/-- A key of this size is derived exactly when the size is allowed. -/
def RightSize (i : ℕ) (r : PtaReply) : Prop :=
  r.res = teeSuccess ↔ taDerivedKeyMinSize ≤ i ∧ i ≤ taDerivedKeyMaxSize

def Derived (a b : PtaReply) : Prop := a.res = teeSuccess ∧ b.res = teeSuccess

/-- The same input gives the same key and another one another key, too much extra data is
refused, and so are the wrong sizes. -/
def Right : List PtaReply → Prop
  | a :: b :: c :: d :: e :: f :: g :: rest =>
    (Derived a b ∧ keyOf a = keyOf b) ∧ (Derived c d ∧ keyOf c = keyOf d) ∧
      (Derived e f ∧ keyOf e ≠ keyOf f) ∧ g.res ≠ teeSuccess ∧
        List.Forall₂ RightSize (List.range 64) rest
  | _ => False

theorem generic_ne : teeErrorGeneric ≠ teeSuccess := by
  decide

theorem noting_success (bad : Prop) [Decidable bad] (final : TeeResult) :
    noting bad final = teeSuccess ↔ ¬ bad ∧ final = teeSuccess := by
  unfold noting
  split
  · next h => exact iff_of_false generic_ne fun hn => hn.1 h
  · next h => exact (and_iff_right h).symm

/-- The loop goes on after a right answer and breaks after a wrong one. -/
theorem testLimits_cons (api : PtaApi σ) (sess i : ℕ) (is : List ℕ) (final : TeeResult) (s : σ) :
    let r := api (.derive sess i (extraFor i)) s
    (RightSize i r.1 ∧ testLimits api sess (i :: is) final s = testLimits api sess is final r.2) ∨
      (¬ RightSize i r.1 ∧ testLimits api sess (i :: is) final s = (teeErrorGeneric, r.2)) := by
  intro r
  have hrun : testLimits api sess (i :: is) final s =
      (if i < taDerivedKeyMinSize then
        if r.1.res ≠ teeSuccess then testLimits api sess is final else pure teeErrorGeneric
      else if i > taDerivedKeyMaxSize then
        if r.1.res ≠ teeSuccess then testLimits api sess is final else pure teeErrorGeneric
      else if r.1.res ≠ teeSuccess then pure teeErrorGeneric
      else testLimits api sess is final) r.2 := rfl
  rw [hrun]
  by_cases hres : r.1.res = teeSuccess
  · by_cases hallowed : taDerivedKeyMinSize ≤ i ∧ i ≤ taDerivedKeyMaxSize
    · left
      rw [if_neg (Nat.not_lt.mpr hallowed.1), if_neg (Nat.not_lt.mpr hallowed.2),
        if_neg (not_not.mpr hres)]
      exact ⟨iff_of_true hres hallowed, rfl⟩
    · right
      refine ⟨fun hright => hallowed (hright.mp hres), ?_⟩
      rw [if_neg (not_not.mpr hres), if_neg (not_not.mpr hres)]
      split_ifs with hmin hmax
      · rfl
      · rfl
      · exact absurd ⟨Nat.not_lt.mp hmin, Nat.not_lt.mp hmax⟩ hallowed
  · by_cases hallowed : taDerivedKeyMinSize ≤ i ∧ i ≤ taDerivedKeyMaxSize
    · right
      rw [if_neg (Nat.not_lt.mpr hallowed.1), if_neg (Nat.not_lt.mpr hallowed.2), if_pos hres]
      exact ⟨fun hright => hres (hright.mpr hallowed), rfl⟩
    · left
      refine ⟨iff_of_false hres hallowed, ?_⟩
      rw [if_pos hres]
      split_ifs with hmin hmax
      · rfl
      · rfl
      · exact absurd ⟨Nat.not_lt.mp hmin, Nat.not_lt.mp hmax⟩ hallowed

theorem testLimits_success (api : PtaApi σ) (sess : ℕ) (is : List ℕ) (final : TeeResult) (s : σ) :
    (testLimits api sess is final s).1 = teeSuccess ↔ final = teeSuccess ∧
      List.Forall₂ RightSize is (ask api sess (is.map fun i => (i, extraFor i)) s) := by
  induction is generalizing s with
  | nil => exact (and_iff_left List.Forall₂.nil).symm
  | cons i is ih =>
    rw [List.map_cons, ask, List.forall₂_cons]
    rcases testLimits_cons api sess i is final s with ⟨hright, hrun⟩ | ⟨hwrong, hrun⟩
    · rw [hrun, ih]
      exact and_congr_right fun _ => (and_iff_right hright).symm
    · rw [hrun]
      exact iff_of_false generic_ne fun hn => hwrong hn.2.1

theorem testKeys_success (api : PtaApi σ) (sess : ℕ) (s : σ) :
    (testKeys api sess s).1 = teeSuccess ↔ Right (ask api sess requests s) := by
  have hrun : (testKeys api sess s).1 = teeSuccess ↔ _ := testLimits_success api sess _ _ _
  rw [hrun]
  simp only [noting_success, not_not, and_true]
  constructor
  · rintro ⟨⟨hg, hef, hf, he, hcd, hd, hc, hab, hb, ha⟩, hsizes⟩
    exact ⟨⟨⟨ha, hb⟩, hab⟩, ⟨⟨hc, hd⟩, hcd⟩, ⟨⟨he, hf⟩, hef⟩, hg, hsizes⟩
  · rintro ⟨⟨⟨ha, hb⟩, hab⟩, ⟨⟨hc, hd⟩, hcd⟩, ⟨⟨he, hf⟩, hef⟩, hg, hsizes⟩
    exact ⟨⟨hg, hef, hf, he, hcd, hd, hc, hab, hb, ha⟩, hsizes⟩

/-- The test succeeds exactly on a PTA that answers all of the requests right. -/
theorem derive_verdict (api : PtaApi σ) (paramTypes : UInt32) (s : σ) :
    (deriveTaUniqueKeyTest api paramTypes s).1 = teeSuccess ↔ paramTypes = noTypes ∧
      (api .openSession s).1.res = teeSuccess ∧
        Right (ask api (api .openSession s).1.sess requests (api .openSession s).2) := by
  by_cases htypes : paramTypes = noTypes
  · subst htypes
    have hrun : deriveTaUniqueKeyTest api noTypes s =
        (if (api .openSession s).1.res ≠ teeSuccess then pure (api .openSession s).1.res
        else do
          let final ← testKeys api (api .openSession s).1.sess
          let _ ← api (.closeSession (api .openSession s).1.sess)
          pure final : StateM σ TeeResult) (api .openSession s).2 := rfl
    rw [hrun, and_iff_right rfl]
    by_cases hopen : (api .openSession s).1.res = teeSuccess
    · rw [if_neg (not_not.mpr hopen), and_iff_right hopen, ← testKeys_success]
      rfl
    · rw [if_pos hopen]
      exact iff_of_false hopen fun hn => hopen hn.1
  · have hbad : teeErrorBadParameters ≠ teeSuccess := by decide
    rw [deriveTaUniqueKeyTest, if_pos htypes]
    exact iff_of_false hbad fun hn => htypes hn.1

def samplePta : PtaApi Unit := fun c s => match c with
  | .derive _ n x => (⟨if 16 ≤ n ∧ n ≤ 32 ∧ x ≤ 1024 then teeSuccess else teeErrorBadParameters,
      0, [UInt8.ofNat x]⟩, s)
  | _ => (⟨teeSuccess, 1, []⟩, s)

example : (deriveTaUniqueKeyTest samplePta noTypes ()).1 = teeSuccess := by
  decide +kernel

inductive PtaCommand where
  | deriveKey | deriveKeyShm | seedRng
  deriving DecidableEq

def PtaCommand.run (api : PtaApi σ) (paramTypes : UInt32) (params : TeeParams) :
    PtaCommand → StateM σ TeeResult
  | .deriveKey => deriveTaUniqueKeyTest api paramTypes
  | .deriveKeyShm => deriveTaUniqueKeyTestShm api paramTypes params
  | .seedRng => seedRngPool api paramTypes params

def traced (api : PtaApi σ) : PtaCall → Traced σ PtaCall PtaReply := fun c => act c (api c)

def Within (sess : ℕ) : PtaCall → Prop
  | .derive sess' _ _ | .passOn sess' _ _ => sess' = sess
  | .openSession | .closeSession _ => False

/-- The calls of a command whose open is answered with `o`. Only `seed_rng_pool` closes a session
that it failed to open. -/
inductive Tidy (o : PtaReply) : PtaCommand → List PtaCall → Prop
  | refused (cmd : PtaCommand) : Tidy o cmd []
  | failed (cmd : PtaCommand) (hcmd : cmd ≠ .seedRng) (h : o.res ≠ teeSuccess) :
    Tidy o cmd [.openSession]
  | failedClosed (h : o.res ≠ teeSuccess) :
    Tidy o .seedRng [.openSession, .closeSession teeHandleNull]
  | closed (cmd : PtaCommand) (h : o.res = teeSuccess) (calls : List PtaCall)
    (hcalls : ∀ c ∈ calls, Within o.sess c) :
    Tidy o cmd (.openSession :: calls ++ [.closeSession o.sess])

variable {α β : Type} {sess : ℕ}

def Stays (sess : ℕ) (x : Traced σ PtaCall α) : Prop := ∀ s, ∃ a s', Runs (Within sess) x s a s'

theorem stays_pure (a : α) : Stays sess (pure a : Traced σ PtaCall α) :=
  fun s => ⟨a, s, runs_pure a s⟩

theorem stays_call (api : PtaApi σ) {c : PtaCall} (hc : Within sess c)
    {f : PtaReply → Traced σ PtaCall β} (hf : ∀ r, Stays sess (f r)) :
    Stays sess (traced api c >>= f) := by
  intro s
  obtain ⟨b, s', hrun⟩ := hf _ (api c s).2
  exact ⟨b, s', runs_act_bind hc hrun⟩

theorem stays_derive (api : PtaApi σ) {n x : ℕ} {f : PtaReply → Traced σ PtaCall β}
    (hf : ∀ r, Stays sess (f r)) : Stays sess (traced api (.derive sess n x) >>= f) :=
  stays_call api (by rfl) hf

theorem stays_testLimits (api : PtaApi σ) (sess : ℕ) (is : List ℕ) (final : TeeResult) :
    Stays sess (testLimits (traced api) sess is final) := by
  induction is with
  | nil => exact stays_pure final
  | cons i is ih =>
    refine stays_derive api fun r => ?_
    split_ifs <;> first | exact ih | exact stays_pure _

theorem stays_testKeys (api : PtaApi σ) (sess : ℕ) : Stays sess (testKeys (traced api) sess) :=
  stays_derive api fun _ => stays_derive api fun _ => stays_derive api fun _ =>
    stays_derive api fun _ => stays_derive api fun _ => stays_derive api fun _ =>
    stays_derive api fun _ => stays_testLimits api sess _ _

def session (api : PtaApi σ) (failed : TeeResult → Traced σ PtaCall TeeResult)
    (body : ℕ → Traced σ PtaCall TeeResult) : Traced σ PtaCall TeeResult := do
  let o ← traced api .openSession
  if o.res ≠ teeSuccess then failed o.res
  else do
    let res ← body o.sess
    let _ ← traced api (.closeSession o.sess)
    pure res

theorem session_tidy (api : PtaApi σ) (cmd : PtaCommand)
    (failed : TeeResult → Traced σ PtaCall TeeResult)
    (body : ℕ → Traced σ PtaCall TeeResult) (s : σ)
    (hfailed : (api .openSession s).1.res ≠ teeSuccess → Tidy (api .openSession s).1 cmd
      (failed (api .openSession s).1.res ((api .openSession s).2, [.openSession])).2.2)
    (hbody : ∀ sess, Stays sess (body sess)) :
    Tidy (api .openSession s).1 cmd (session api failed body (s, [])).2.2 := by
  have hrun : session api failed body (s, []) =
      (if (api .openSession s).1.res ≠ teeSuccess then failed (api .openSession s).1.res
      else do
        let res ← body (api .openSession s).1.sess
        let _ ← traced api (.closeSession (api .openSession s).1.sess)
        pure res : Traced σ PtaCall TeeResult) ((api .openSession s).2, [.openSession]) := rfl
  rw [hrun]
  by_cases hopen : (api .openSession s).1.res = teeSuccess
  · rw [if_neg (not_not.mpr hopen)]
    obtain ⟨res, s', hstays⟩ := hbody (api .openSession s).1.sess (api .openSession s).2
    obtain ⟨calls, hcalls, hwithin⟩ := hstays [.openSession]
    have hlog : ((do
        let res ← body (api .openSession s).1.sess
        let _ ← traced api (.closeSession (api .openSession s).1.sess)
        pure res : Traced σ PtaCall TeeResult) ((api .openSession s).2, [.openSession])).2.2 =
          (body (api .openSession s).1.sess ((api .openSession s).2, [.openSession])).2.2 ++
            [.closeSession (api .openSession s).1.sess] := rfl
    rw [hlog, hcalls]
    exact .closed cmd hopen calls hwithin
  · rw [if_pos hopen]
    exact hfailed hopen

def passOn (api : PtaApi σ) (commandId : ℕ) (params : TeeParams) (sess : ℕ) :
    Traced σ PtaCall TeeResult := do
  let r ← traced api (.passOn sess commandId params)
  pure r.res

theorem stays_passOn (api : PtaApi σ) (commandId : ℕ) (params : TeeParams) (sess : ℕ) :
    Stays sess (passOn api commandId params sess) :=
  stays_call api (by rfl) fun r => stays_pure r.res

/-- Whatever the PTA answers, each command closes the session that it opened, once, after all it
asks in it, and asks nothing without one. -/
theorem sessions_tidy (api : PtaApi σ) (cmd : PtaCommand) (paramTypes : UInt32)
    (params : TeeParams) (s : σ) :
    Tidy (api .openSession s).1 cmd (cmd.run (traced api) paramTypes params (s, [])).2.2 := by
  cases cmd with
  | deriveKey =>
    unfold PtaCommand.run deriveTaUniqueKeyTest
    split_ifs
    · exact .refused _
    · exact session_tidy api .deriveKey pure (testKeys (traced api)) s
        (.failed .deriveKey (by decide)) (stays_testKeys api)
  | deriveKeyShm =>
    unfold PtaCommand.run deriveTaUniqueKeyTestShm
    split_ifs
    · exact .refused _
    · exact session_tidy api .deriveKeyShm pure (passOn api ptaSystemDeriveTaUniqueKey params) s
        (.failed .deriveKeyShm (by decide)) (stays_passOn api _ params)
  | seedRng =>
    unfold PtaCommand.run seedRngPool
    split_ifs
    · exact .refused _
    · exact .refused _
    · exact session_tidy api .seedRng (fun res => do
        let _ ← traced api (.closeSession teeHandleNull)
        pure res) (passOn api ptaSystemAddRngEntropy params) s .failedClosed
          (stays_passOn api _ params)

end DeriveKeyTest
