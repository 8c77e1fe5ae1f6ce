import OpteeTest.PerfOperation
import OpteeTest.GuardedRun

/-! # The lifetime of the operation of the performance TAs

The variable of a TA is null, or holds the operation, or holds a handle that has been freed. The
last is harmless only as long as no call touches the operation again. -/
namespace PerfLifetimes

open ByteMemory TeeApi TeeCalls HandleLedger TeeRecord GuardedRun PerfOperation
open PerfCommands (aesParamTypes shaParamTypes teeAlgAesGcm unitSize)

/-- The static variable is null, holds the operation, or holds a handle that has been freed. -/
inductive Phase where
  | unset
  | open
  | dangling
  deriving DecidableEq

/-- What a call does to the operation; a failed allocation may clear the variable. -/
inductive Effect where
  | none
  | uses
  | frees
  | prepares
  | refuses (cleared : Bool)
  deriving DecidableEq

def Phase.next (p : Phase) : Effect → Phase
  | .none | .uses => p
  | .frees => if p = .unset then .unset else .dangling
  | .prepares => .open
  | .refuses cleared => if cleared ∨ p = .unset then .unset else .dangling

def cleaned (E : Tee) (w : World) (op : ℕ) : World :=
  if op ≠ 0 then E.called w (.freeOperation op) else w

def allocationEffect (E : Tee) (w : World) (op : ℕ) (alloc : ApiCall) : Effect :=
  let r := E.answer (cleaned E w op) alloc
  if r.res = teeSuccess then .prepares else .refuses (r.handle = 0)

structure Instance (γ : Type) where
  statics : γ
  world : World
  phase : Phase

/-- No handle was used or freed that was not open, at most one operation is open, and no key. -/
structure LifetimesSound (w : World) : Prop where
  unmisused : w.record.handles.misused = false
  oneOperation : ∀ op op', w.record.handles.owner (.operation op) ≠ none →
    w.record.handles.owner (.operation op') ≠ none → op = op'
  noKey : ∀ hkey, w.record.handles.owner (.object hkey) = none

def held : Phase → ℕ → Ledger (Option ObjectName) Resource
  | .open, op => Ledger.empty.acquire none (.operation op)
  | _, _ => Ledger.empty

structure Holds (p : Phase) (op : ℕ) (w : World) : Prop where
  handles : w.record.handles = held p op
  null : op = 0 ↔ p = .unset

theorem held_closed {p : Phase} {op : ℕ} (h : p ≠ .open) : held p op = Ledger.empty := by
  cases p with
  | «open» => exact absurd rfl h
  | unset => rfl
  | dangling => rfl

theorem next_refuses (p : Phase) (cleared : Bool) : p.next (.refuses cleared) ≠ .open := by
  cases p <;> cases cleared <;> decide

variable {E : Tee} {w : World} {p : Phase} {op hkey : ℕ} {A : Arch} {g : AesStatics}
  {params : TeeParams} {paramTypes algo keysize : UInt32}

theorem holds_sound (h : Holds p op w) : LifetimesSound w := by
  by_cases hp : p = .open
  · have hhandles : w.record.handles = Ledger.empty.acquire none (.operation op) := by
      rw [h.handles, hp, held]
    have howner (k : Resource) : w.record.handles.owner k =
        if k = .operation op then some none else none := by
      simp [hhandles, Ledger.acquire, Ledger.empty, Function.update_apply]
    have hopen (o : ℕ) (ho : w.record.handles.owner (.operation o) ≠ none) : o = op := by
      by_contra hne
      rw [howner, if_neg (fun hk => hne (Resource.operation.inj hk))] at ho
      exact ho rfl
    refine ⟨by rw [hhandles]; rfl, fun o o' ho ho' => (hopen o ho).trans (hopen o' ho').symm, ?_⟩
    intro hkey
    rw [howner, if_neg Resource.noConfusion]
  · have hhandles : w.record.handles = Ledger.empty := h.handles.trans (held_closed hp)
    refine ⟨by rw [hhandles]; rfl, fun o o' ho => absurd ?_ ho, fun hkey => ?_⟩
    · rw [hhandles]
      rfl
    · rw [hhandles]
      rfl

theorem cleaned_handles (h : Holds p op w) (hp : p ≠ .dangling) :
    (cleaned E w op).record.handles = Ledger.empty := by
  unfold cleaned
  cases p with
  | unset =>
    rw [if_neg (not_not.mpr (h.null.mpr rfl))]
    exact h.handles
  | dangling => exact absurd rfl hp
  | «open» =>
    have hop : op ≠ 0 := fun hzero => nomatch h.null.mp hzero
    rw [if_pos hop, called_closed rfl rfl fun _ => rfl]
    dsimp only
    rw [h.handles, held, release_acquire rfl]

theorem cleanRes_ends {Q : Unit → World → Prop} (h : Q () (cleaned E w op)) :
    Ends (cmdCleanRes E.calls op) w Q := by
  unfold cmdCleanRes cleaned at *
  split
  · rw [if_pos ‹_›] at h
    exact ends_api (ends_pure h)
  · rw [if_neg ‹_›] at h
    exact ends_pure h

theorem freed_holds (h : Holds p op w) (hp : p ≠ .dangling) :
    Holds (p.next .frees) op (cleaned E w op) := by
  refine ⟨?_, ?_⟩
  · rw [cleaned_handles h hp, held_closed (by cases p <;> decide)]
  · rw [h.null]
    cases p <;> simp [Phase.next]

theorem allocationEffect_ne (op : ℕ) (alloc : ApiCall) :
    allocationEffect E w op alloc ≠ .none := by
  rw [allocationEffect]
  split_ifs
  · exact Effect.noConfusion
  · exact Effect.noConfusion

/-- After an allocation the variable and the ledger are those of the next phase. -/
theorem reallocate_ends (h : Holds p op w) (hp : p ≠ .dangling) (algorithm mode size : UInt32) :
    Ends (reallocate E.calls op (.allocateOperation algorithm mode size)) w fun out w' =>
      Holds (p.next (allocationEffect E w op (.allocateOperation algorithm mode size))) out.2 w' ∧
      out.1 = (E.answer (cleaned E w op) (.allocateOperation algorithm mode size)).res ∧
      (out.1 = teeSuccess →
        out.2 = (E.answer (cleaned E w op) (.allocateOperation algorithm mode size)).handle) ∧
      w' = E.called (cleaned E w op) (.allocateOperation algorithm mode size) := by
  have hclean := cleaned_handles (E := E) h hp
  refine ends_bind (cleanRes_ends (ends_api (ends_pure ⟨?_, rfl, fun hres => if_pos hres, rfl⟩)))
  unfold allocationEffect
  generalize cleaned E w op = w₁ at hclean ⊢
  dsimp only
  set alloc : ApiCall := .allocateOperation algorithm mode size with halloc
  by_cases hres : (E.answer w₁ alloc).res = teeSuccess
  · have hopened := called_opened (E := E) (w := w₁) (c := alloc) (by simp [halloc, used]) rfl hres
      (o := none) rfl
    have hnonnull := E.nonnull w₁ alloc hres (Option.some_ne_none _)
    rw [if_pos hres, if_pos hres]
    refine ⟨?_, ?_⟩
    · rw [hopened]
      dsimp only
      rw [hclean]
      rfl
    · simp [Phase.next, hnonnull]
  · rw [if_neg hres, if_neg hres]
    have hkept := called_failed (E := E) (w := w₁) (c := alloc) (by simp [halloc, used]) rfl hres
    refine ⟨?_, ?_⟩
    · rw [hkept, hclean, held_closed (next_refuses p _)]
    · by_cases hcleared : (E.answer w₁ alloc).handle = 0
      · simp [Phase.next, hcleared]
      · rw [if_neg hcleared, h.null]
        cases p <;> simp [Phase.next, hcleared]

/-- The second key is allocated and populated, and both are given to the operation. -/
def SecondKeySet (E : Tee) (w : World) (op hkey : ℕ) (keysize : UInt32) : Prop :=
  let t := E.answer w (keyAllocation keysize)
  let w := E.called w (keyAllocation keysize)
  let p := E.answer w (keyPopulation aesKey2 keysize t.handle)
  let w := E.called w (keyPopulation aesKey2 keysize t.handle)
  t.res = teeSuccess ∧ p.res = teeSuccess ∧
    (E.answer w (.setOperationKey2 op hkey t.handle)).res = teeSuccess

/-- The first key is not allocated, or no call fails from there to the point where it is freed. -/
def KeysReleased (E : Tee) (w : World) (op : ℕ) (algo keysize : UInt32) : Prop :=
  let t := E.answer w (keyAllocation keysize)
  let w := E.called w (keyAllocation keysize)
  let p := E.answer w (keyPopulation aesKey keysize t.handle)
  let w := E.called w (keyPopulation aesKey keysize t.handle)
  t.res ≠ teeSuccess ∨ p.res = teeSuccess ∧
    if algo = teeAlgAesXts then SecondKeySet E w op t.handle keysize
    else (E.answer w (.setOperationKey op t.handle)).res = teeSuccess

theorem key_opened (hres : (E.answer w (keyAllocation keysize)).res = teeSuccess) :
    w.record.handles.owner (.object (E.answer w (keyAllocation keysize)).handle) = none ∧
      (E.called w (keyAllocation keysize)).record = { w.record with
        handles := w.record.handles.acquire none
          (.object (E.answer w (keyAllocation keysize)).handle) } := by
  refine ⟨E.fresh w (keyAllocation keysize) _ none hres rfl, ?_⟩
  rw [called_opened (by simp [keyAllocation, used]) rfl hres (o := none) rfl]
  rfl

theorem key_populated (key : Memory UInt8) (keysize : UInt32)
    (h : (w.record.handles.owner (.object hkey)).isSome) :
    (E.called w (keyPopulation key keysize hkey)).record = w.record :=
  called_plain (by simp [keyPopulation, used, h]) rfl fun _ => rfl

theorem key_freed {w' : World} (hfresh : w.record.handles.owner (.object hkey) = none)
    (h : w'.record = { w.record with handles := w.record.handles.acquire none (.object hkey) }) :
    (E.called w' (.freeTransientObject hkey)).record = w.record := by
  rw [called_closed rfl rfl fun _ => rfl, h]
  simp [Record.stored, release_acquire hfresh]

theorem setSecondKey_ends (hop : (w.record.handles.owner (.operation op)).isSome)
    (hkey₁ : (w.record.handles.owner (.object hkey)).isSome)
    (h : SecondKeySet E w op hkey keysize) :
    Ends (setSecondKey E.calls op hkey keysize) w fun res w' =>
      res = teeSuccess ∧ w'.record = w.record := by
  obtain ⟨hres, hpop, hset⟩ := h
  obtain ⟨hfresh, hopened⟩ := key_opened hres
  refine ends_api ?_
  rw [if_neg (not_not.mpr hres)]
  generalize E.called w (keyAllocation keysize) = w₁ at hopened hpop hset ⊢
  generalize E.answer w (keyAllocation keysize) = t at hfresh hopened hpop hset ⊢
  have hlive : (w₁.record.handles.owner (.object t.handle)).isSome := by simp [hopened]
  have hpopulated := key_populated (E := E) aesKey2 keysize hlive
  refine ends_api ?_
  rw [if_neg (not_not.mpr hpop)]
  generalize E.called w₁ (keyPopulation aesKey2 keysize t.handle) = w₂ at hpopulated hset ⊢
  have hsetKey : (E.called w₂ (.setOperationKey2 op hkey t.handle)).record = w₁.record := by
    rw [← hpopulated]
    refine called_plain ?_ rfl fun _ => rfl
    simp only [used, List.mem_append, mem_given, hpopulated]
    rintro k ((⟨-, rfl⟩ | ⟨-, rfl⟩) | ⟨-, rfl⟩)
    · simpa [hopened] using hop
    · have hne : hkey ≠ t.handle := by
        rintro rfl
        rw [hfresh] at hkey₁
        cases hkey₁
      simpa [hopened, hne] using hkey₁
    · exact hlive
  refine ends_api ?_
  rw [if_neg (not_not.mpr hset)]
  refine ends_api (ends_pure ⟨rfl, key_freed hfresh (hsetKey.trans hopened)⟩)

/-- Both ways to set the keys leave the record and report whether they succeeded. -/
theorem setOneKey_ends (hop : (w.record.handles.owner (.operation op)).isSome)
    (hkey₁ : (w.record.handles.owner (.object hkey)).isSome) :
    Ends (setOneKey E.calls op hkey) w fun res w' =>
      res = (E.answer w (.setOperationKey op hkey)).res ∧ w'.record = w.record := by
  refine ends_api (ends_pure ⟨rfl, called_plain ?_ rfl fun _ => rfl⟩)
  simp only [used, List.mem_append, mem_given]
  rintro k (⟨-, rfl⟩ | ⟨-, rfl⟩)
  · exact hop
  · exact hkey₁

theorem setKeys_ends (hop : (w.record.handles.owner (.operation op)).isSome)
    (h : KeysReleased E w op algo keysize) :
    Ends (setKeys E.calls op algo keysize) w fun _ w' => w'.record = w.record := by
  refine ends_api ?_
  by_cases hres : (E.answer w (keyAllocation keysize)).res = teeSuccess
  case neg =>
    rw [if_pos hres]
    exact ends_pure (called_failed (by simp [keyAllocation, used]) rfl hres)
  rw [if_neg (not_not.mpr hres)]
  obtain ⟨hpop, hset⟩ := h.resolve_left (not_not.mpr hres)
  obtain ⟨hfresh, hopened⟩ := key_opened hres
  generalize E.called w (keyAllocation keysize) = w₁ at hopened hpop hset ⊢
  generalize E.answer w (keyAllocation keysize) = t at hfresh hopened hpop hset ⊢
  have hlive : (w₁.record.handles.owner (.object t.handle)).isSome := by simp [hopened]
  have hop₁ : (w₁.record.handles.owner (.operation op)).isSome := by simpa [hopened] using hop
  have hpopulated := key_populated (E := E) aesKey keysize hlive
  refine ends_api ?_
  rw [if_neg (not_not.mpr hpop)]
  generalize E.called w₁ (keyPopulation aesKey keysize t.handle) = w₂ at hpopulated hset ⊢
  rw [← hpopulated] at hlive hop₁ hopened
  have hboth : Ends (setOperationKeys E.calls op t.handle algo keysize) w₂ fun res w' =>
      res = teeSuccess ∧ w'.record = w₂.record := by
    unfold setOperationKeys
    by_cases hxts : algo = teeAlgAesXts
    · rw [if_pos hxts] at hset ⊢
      exact setSecondKey_ends hop₁ hlive hset
    · rw [if_neg hxts] at hset ⊢
      refine ends_mono (setOneKey_ends hop₁ hlive) fun res w' h' => ⟨h'.1.trans hset, h'.2⟩
  refine ends_bind (ends_mono hboth fun res w₃ h₃ => ?_)
  rw [h₃.1, if_neg (not_not.mpr rfl)]
  exact ends_api (ends_pure (key_freed hfresh (h₃.2.trans hopened)))

/-- The variable is null or holds an open operation. -/
def Usable (w : World) (op : ℕ) : Prop :=
  op ≠ 0 → (w.record.handles.owner (.operation op)).isSome

theorem usable_of_holds (h : Holds p op w) (hp : p ≠ .dangling) : Usable w op := by
  intro hop
  cases p with
  | unset => exact absurd (h.null.mpr rfl) hop
  | dangling => exact absurd rfl hp
  | «open» =>
    rw [h.handles]
    simp [held, Ledger.acquire]

theorem called_use {c : ApiCall} (h : Usable w op) (hused : used c = given .operation op)
    (hclosed : closed c = none) (hopened : ∀ n, opened n c = none) :
    (E.called w c).record = w.record := by
  refine called_plain ?_ hclosed hopened
  rw [hused]
  simp only [mem_given]
  rintro k ⟨hop, rfl⟩
  exact h hop

theorem initOperation_ends (h : Usable w op) (useIv : Bool) :
    Ends (initOperation E.calls op algo useIv) w fun _ w' => w'.record = w.record := by
  unfold initOperation
  split
  · exact ends_api (ends_pure (called_use h rfl rfl fun _ => rfl))
  · exact ends_api (ends_pure (called_use h rfl rfl fun _ => rfl))

theorem called_update (h : Usable w g.cryptoOp) (inp : List UInt8) (outsz : UInt32) :
    (E.called w (updateCall g inp outsz)).record = w.record := by
  unfold updateCall
  split
  · exact called_use h rfl rfl fun _ => rfl
  · exact called_use h rfl rfl fun _ => rfl

theorem unitLoop_ends {buffer : Memory UInt8} {unit count inp : ℕ} {outsz : UInt32}
    (h : 0 < count → Usable w g.cryptoOp) :
    Ends (unitLoop E.calls A g buffer unit count inp outsz) w fun _ w' => w'.record = w.record := by
  induction count generalizing w inp outsz with
  | zero => exact ends_pure rfl
  | succ count ih =>
    have husable := h (Nat.succ_pos _)
    have hcalled := called_update (E := E) husable (slice buffer inp unit) outsz
    refine ends_api ?_
    split
    · exact ends_pure hcalled
    · refine ends_mono (ih fun _ hop => ?_) fun _ w' h' => h'.trans hcalled
      rw [hcalled]
      exact husable hop

theorem roundLoop_ends {buffer : Memory UInt8} {insz unit n inp : ℕ} {outsz : UInt32}
    (h : 0 < insz → Usable w g.cryptoOp) :
    Ends (roundLoop E.calls A g buffer insz unit n inp outsz) w fun _ w' =>
      w'.record = w.record := by
  induction n generalizing w inp outsz with
  | zero => exact ends_pure rfl
  | succ n ih =>
    have hunits : 0 < insz / unit → Usable w g.cryptoOp := fun hpos =>
      h (Nat.pos_of_ne_zero fun hzero => by simp [hzero] at hpos)
    refine ends_bind (ends_mono (unitLoop_ends hunits) fun out w₁ h₁ => ?_)
    have husable : 0 < insz → Usable w₁ g.cryptoOp := by
      intro hpos hop
      rw [h₁]
      exact h hpos hop
    split
    · exact ends_pure h₁
    split
    case isFalse => exact ends_mono (ih husable) fun _ w' h' => h'.trans h₁
    case isTrue hrest =>
      have hpos : 0 < insz := Nat.pos_of_ne_zero fun hzero => hrest (by simp [hzero])
      have hcalled := called_update (E := E) (husable hpos)
        (slice buffer out.2.1 (insz % unit)) out.2.2
      refine ends_api ?_
      split
      · exact ends_pure (hcalled.trans h₁)
      · refine ends_mono (ih fun _ hop => ?_) fun _ w' h' => h'.trans (hcalled.trans h₁)
        rw [hcalled]
        exact husable hpos hop

theorem digestLoop_ends {inp : List UInt8} {n : ℕ} {outsz : UInt32} (h : 0 < n → Usable w op) :
    Ends (digestLoop E.calls op inp n outsz) w fun _ w' => w'.record = w.record := by
  induction n generalizing w outsz with
  | zero => exact ends_pure rfl
  | succ n ih =>
    have husable := h (Nat.succ_pos _)
    have hcalled : (E.called w (.digestDoFinal op inp outsz)).record = w.record :=
      called_use husable rfl rfl fun _ => rfl
    refine ends_api ?_
    split
    · exact ends_pure hcalled
    · refine ends_mono (ih fun _ hop => ?_) fun _ w' h' => h'.trans hcalled
      rw [hcalled]
      exact husable hop

theorem Holds.of_record {w' : World} (h : Holds p op w) (hrecord : w'.record = w.record) :
    Holds p op w' :=
  ⟨by rw [hrecord, h.handles], h.null⟩

def AesPrepares (commandId paramTypes : UInt32) (params : TeeParams) (algo : UInt32)
    (useIv : Bool) : Prop :=
  commandId = 0 ∧ paramTypes = prepareTypes ∧
    aesAlgorithm (params 1).value.a = some (algo, useIv)

theorem cmdPrepareKey_ends {useIv : Bool} (h : Holds p g.cryptoOp w) (hp : p ≠ .dangling)
    (hprep : AesPrepares 0 paramTypes params algo useIv)
    (hkeys : (E.answer (cleaned E w g.cryptoOp) (aesAllocation params algo)).res = teeSuccess →
      KeysReleased E (E.called (cleaned E w g.cryptoOp) (aesAllocation params algo))
        (E.answer (cleaned E w g.cryptoOp) (aesAllocation params algo)).handle algo
        (params 0).value.b) :
    Ends (cmdPrepareKey E.calls paramTypes params g) w fun out w' =>
      Holds (p.next (allocationEffect E w g.cryptoOp (aesAllocation params algo)))
        out.2.cryptoOp w' := by
  unfold cmdPrepareKey
  rw [if_neg (not_not.mpr hprep.2.1), hprep.2.2]
  refine ends_bind (ends_mono (reallocate_ends h hp _ _ _) fun out w₁ h₁ => ?_)
  obtain ⟨hholds, hres, hhandle, hw⟩ := h₁
  split
  · exact ends_pure hholds
  · rename_i hsucc
    rw [not_not] at hsucc
    have hopen : allocationEffect E w g.cryptoOp (aesAllocation params algo) = .prepares :=
      if_pos (hres.symm.trans hsucc)
    have hholds' : Holds .open out.2 w₁ := by
      have hnext := hholds
      rwa [show allocationEffect E w g.cryptoOp (.allocateOperation _ _ _) = .prepares from hopen]
        at hnext
    have hop : (w₁.record.handles.owner (.operation out.2)).isSome := by
      rw [hholds'.handles]
      simp [held, Ledger.acquire]
    have hreleased : KeysReleased E w₁ out.2 algo (params 0).value.b := by
      rw [hw, hhandle hsucc]
      exact hkeys (hres.symm.trans hsucc)
    refine ends_bind (ends_mono (setKeys_ends hop hreleased) fun res w₂ h₂ => ?_)
    split
    · exact ends_pure (hholds.of_record h₂)
    · have husable : Usable w₂ out.2 := fun _ => by rwa [h₂]
      refine ends_bind (ends_mono (initOperation_ends husable useIv) fun res' w₃ h₃ => ?_)
      exact ends_pure (hholds.of_record (h₃.trans h₂))

def AesUses (paramTypes : UInt32) (params : TeeParams) (useSdp : Bool) (sdp : SdpAnswers) : Prop :=
  paramTypes = aesParamTypes ∧ sdp.preFlush useSdp = teeSuccess ∧
    0 < (params 2).value.a.toNat ∧ 0 < (params 0).memref.size.toNat

instance (paramTypes : UInt32) (params : TeeParams) (useSdp : Bool) (sdp : SdpAnswers) :
    Decidable (AesUses paramTypes params useSdp sdp) :=
  inferInstanceAs (Decidable (_ ∧ _))

theorem aesCmdProcess_ends {useSdp : Bool} {sdp : SdpAnswers}
    (h : AesUses paramTypes params useSdp sdp → Usable w g.cryptoOp) :
    Ends (aesCmdProcess E.calls A paramTypes params useSdp sdp g) w fun _ w' =>
      w'.record = w.record := by
  unfold aesCmdProcess
  by_cases htypes : paramTypes = aesParamTypes
  case neg =>
    rw [if_pos htypes]
    exact ends_pure rfl
  by_cases hflush : sdp.preFlush useSdp = teeSuccess
  case neg =>
    rw [if_neg (not_not.mpr htypes), if_pos hflush]
    exact ends_pure rfl
  rw [if_neg (not_not.mpr htypes), if_neg (not_not.mpr hflush)]
  have hrounds : Ends (roundLoop E.calls A g (params 0).memref.buffer
      (params 0).memref.size.toNat (unitSize params) (params 2).value.a.toNat 0
      (params 1).memref.size) w fun _ w' => w'.record = w.record := by
    rcases Nat.eq_zero_or_pos (params 2).value.a.toNat with hzero | hpos
    · rw [hzero]
      exact ends_pure rfl
    · exact roundLoop_ends fun hinput => h ⟨htypes, hflush, hpos, hinput⟩
  refine ends_bind (ends_mono hrounds fun res w₁ h₁ => ?_)
  split
  · exact ends_pure h₁
  split
  · exact ends_pure h₁
  · exact ends_pure h₁

def aesPrepareEffect (E : Tee) (w : World) (g : AesStatics) (paramTypes : UInt32)
    (params : TeeParams) : Effect :=
  if paramTypes = prepareTypes then
    match aesAlgorithm (params 1).value.a with
    | some (algo, _) => allocationEffect E w g.cryptoOp (aesAllocation params algo)
    | none => .none
  else .none

def aesProcessEffect (paramTypes : UInt32) (params : TeeParams) (useSdp : Bool)
    (sdp : SdpAnswers) : Effect :=
  if AesUses paramTypes params useSdp sdp then .uses else .none

def aesEffect (E : Tee) (cfgSecureDataPath : Bool) (s : Instance AesStatics) : Request → Effect
  | .closeSession => .frees
  | .invoke commandId paramTypes params sdp =>
    if commandId = 0 then aesPrepareEffect E s.world s.statics paramTypes params
    else if commandId = 1 then aesProcessEffect paramTypes params false sdp
    else if commandId = 2 then
      if cfgSecureDataPath then aesProcessEffect paramTypes params true sdp else .none
    else .none

/-- Once the operation and its first key are allocated nothing fails before the keys are freed. -/
def AesReleases (E : Tee) (w : World) (g : AesStatics) (params : TeeParams) (algo : UInt32) :
    Prop :=
  let r := E.answer (cleaned E w g.cryptoOp) (aesAllocation params algo)
  let w := E.called (cleaned E w g.cryptoOp) (aesAllocation params algo)
  r.res = teeSuccess → KeysReleased E w r.handle algo (params 0).value.b

/-- The call does not touch an operation that was freed and not replaced, and a prepare command
releases its keys. -/
structure AesCareful (E : Tee) (cfgSecureDataPath : Bool) (s : Instance AesStatics)
    (r : Request) : Prop where
  untouched : s.phase = .dangling → aesEffect E cfgSecureDataPath s r = .none
  released : ∀ commandId paramTypes params sdp algo useIv,
    r = .invoke commandId paramTypes params sdp →
    AesPrepares commandId paramTypes params algo useIv →
    AesReleases E s.world s.statics params algo

def aesStep (A : Arch) (cfgSecureDataPath : Bool) (E : Tee) (s : Instance AesStatics)
    (r : Request) : Instance AesStatics :=
  let out := (aesCall E.calls A cfgSecureDataPath r s.statics).run s.world
  ⟨out.1.2, out.2, s.phase.next (aesEffect E cfgSecureDataPath s r)⟩

def aesStart : Instance AesStatics := ⟨⟨0, false, 0⟩, World.empty, .unset⟩

variable {cfgSecureDataPath : Bool} {s : Instance AesStatics} {r : Request}

theorem cmdPrepareKey_effect (h : Holds p g.cryptoOp w)
    (huntouched : aesPrepareEffect E w g paramTypes params ≠ .none → p ≠ .dangling)
    (hreleased : ∀ algo useIv, AesPrepares 0 paramTypes params algo useIv →
      AesReleases E w g params algo) :
    Ends (cmdPrepareKey E.calls paramTypes params g) w fun out w' =>
      Holds (p.next (aesPrepareEffect E w g paramTypes params)) out.2.cryptoOp w' := by
  by_cases htypes : paramTypes = prepareTypes
  case neg =>
    rw [aesPrepareEffect, if_neg htypes, cmdPrepareKey, if_pos htypes]
    exact ends_pure h
  rw [aesPrepareEffect, if_pos htypes] at huntouched ⊢
  rcases halg : aesAlgorithm (params 1).value.a with _ | ⟨algo, useIv⟩
  · rw [cmdPrepareKey, if_neg (not_not.mpr htypes), halg]
    exact ends_pure h
  · rw [halg] at huntouched
    have hp : p ≠ .dangling := huntouched (allocationEffect_ne _ _)
    have hprep : AesPrepares 0 paramTypes params algo useIv := ⟨rfl, htypes, halg⟩
    exact cmdPrepareKey_ends h hp hprep (hreleased _ _ hprep)

theorem aesCmdProcess_effect {useSdp : Bool} {sdp : SdpAnswers} (h : Holds p g.cryptoOp w)
    (huntouched : aesProcessEffect paramTypes params useSdp sdp ≠ .none → p ≠ .dangling) :
    Ends (aesCmdProcess E.calls A paramTypes params useSdp sdp g >>= fun res => pure (res, g)) w
      fun out w' => Holds (p.next (aesProcessEffect paramTypes params useSdp sdp))
        out.2.cryptoOp w' := by
  have huse : AesUses paramTypes params useSdp sdp → Usable w g.cryptoOp := by
    intro huses
    refine usable_of_holds h (huntouched ?_)
    rw [aesProcessEffect, if_pos huses]
    exact fun hnone => nomatch hnone
  refine ends_bind (ends_mono (aesCmdProcess_ends huse) fun res w₁ h₁ => ends_pure ?_)
  unfold aesProcessEffect
  split
  · exact h.of_record h₁
  · exact h.of_record h₁

/-- A careful call keeps the variable and the ledger to the phase. -/
theorem aesCall_ends (h : Holds s.phase s.statics.cryptoOp s.world)
    (hcareful : AesCareful E cfgSecureDataPath s r) :
    Ends (aesCall E.calls A cfgSecureDataPath r s.statics) s.world fun out w' =>
      Holds (s.phase.next (aesEffect E cfgSecureDataPath s r)) out.2.cryptoOp w' := by
  have huntouched : aesEffect E cfgSecureDataPath s r ≠ .none → s.phase ≠ .dangling :=
    fun hne hp => hne (hcareful.untouched hp)
  have hreleased := hcareful.released
  cases r with
  | closeSession =>
    have hp : s.phase ≠ .dangling := huntouched fun hnone => nomatch hnone
    exact ends_bind (cleanRes_ends (ends_pure (freed_holds h hp)))
  | invoke commandId paramTypes params sdp =>
    unfold aesEffect at huntouched ⊢
    unfold aesCall
    dsimp only at huntouched ⊢
    by_cases hprepare : commandId = 0
    · rw [if_pos hprepare] at huntouched ⊢
      rw [if_pos hprepare]
      refine cmdPrepareKey_effect h huntouched fun algo useIv hprep => ?_
      exact hreleased _ _ _ _ _ _ rfl ⟨hprepare, hprep.2⟩
    rw [if_neg hprepare] at huntouched ⊢
    rw [if_neg hprepare]
    by_cases hplain : commandId = 1
    · rw [if_pos hplain] at huntouched ⊢
      rw [if_pos hplain]
      exact aesCmdProcess_effect h huntouched
    rw [if_neg hplain] at huntouched ⊢
    rw [if_neg hplain]
    by_cases hsecure : commandId = 2
    case neg =>
      rw [if_neg hsecure, if_neg hsecure]
      exact ends_pure h
    rw [if_pos hsecure] at huntouched ⊢
    rw [if_pos hsecure]
    by_cases hcfg : cfgSecureDataPath
    · rw [if_pos hcfg] at huntouched ⊢
      rw [if_pos hcfg]
      exact aesCmdProcess_effect h huntouched
    · rw [if_neg hcfg, if_neg hcfg]
      exact ends_pure h

theorem aesStep_holds (h : Holds s.phase s.statics.cryptoOp s.world)
    (hcareful : AesCareful E cfgSecureDataPath s r) :
    Holds (aesStep A cfgSecureDataPath E s r).phase
      (aesStep A cfgSecureDataPath E s r).statics.cryptoOp
      (aesStep A cfgSecureDataPath E s r).world :=
  aesCall_ends h hcareful

def shaPrepareEffect (E : Tee) (w : World) (digestOp : ℕ) (paramTypes : UInt32)
    (params : TeeParams) : Effect :=
  if paramTypes = shaPrepareTypes then
    match shaAlgorithm (params 0).value.a with
    | some algo => allocationEffect E w digestOp (shaAllocation algo)
    | none => .none
  else .none

def shaProcessEffect (paramTypes : UInt32) (params : TeeParams) : Effect :=
  if paramTypes = shaParamTypes ∧ 0 < (params 2).value.a.toNat then .uses else .none

def shaEffect (E : Tee) (s : Instance ℕ) : Request → Effect
  | .closeSession => .frees
  | .invoke commandId paramTypes params _ =>
    if commandId = 0 then shaPrepareEffect E s.world s.statics paramTypes params
    else if commandId = 1 then shaProcessEffect paramTypes params
    else .none

/-- The call does not touch an operation that was freed and not replaced. -/
def ShaCareful (E : Tee) (s : Instance ℕ) (r : Request) : Prop :=
  s.phase = .dangling → shaEffect E s r = .none

def shaStep (E : Tee) (s : Instance ℕ) (r : Request) : Instance ℕ :=
  let out := (shaCall E.calls r s.statics).run s.world
  ⟨out.1.2, out.2, s.phase.next (shaEffect E s r)⟩

def shaStart : Instance ℕ := ⟨0, World.empty, .unset⟩

theorem cmdPrepareOp_effect (h : Holds p op w)
    (huntouched : shaPrepareEffect E w op paramTypes params ≠ .none → p ≠ .dangling) :
    Ends (cmdPrepareOp E.calls paramTypes params op) w fun out w' =>
      Holds (p.next (shaPrepareEffect E w op paramTypes params)) out.2 w' := by
  by_cases htypes : paramTypes = shaPrepareTypes
  case neg =>
    rw [shaPrepareEffect, if_neg htypes, cmdPrepareOp, if_pos htypes]
    exact ends_pure h
  rw [shaPrepareEffect, if_pos htypes] at huntouched ⊢
  rcases halg : shaAlgorithm (params 0).value.a with _ | algo
  · rw [cmdPrepareOp, if_neg (not_not.mpr htypes), halg]
    exact ends_pure h
  · rw [halg] at huntouched
    have hp : p ≠ .dangling := huntouched (allocationEffect_ne _ _)
    rw [cmdPrepareOp, if_neg (not_not.mpr htypes), halg]
    exact ends_mono (reallocate_ends h hp _ _ _) fun out w' h' => h'.1

theorem shaCmdProcess_effect (h : Holds p op w)
    (huntouched : shaProcessEffect paramTypes params ≠ .none → p ≠ .dangling) :
    Ends (shaCmdProcess E.calls paramTypes params op >>= fun res => pure (res, op)) w
      fun out w' => Holds (p.next (shaProcessEffect paramTypes params)) out.2 w' := by
  have hkept : Ends (shaCmdProcess E.calls paramTypes params op) w fun _ w' =>
      w'.record = w.record := by
    unfold shaCmdProcess
    by_cases htypes : paramTypes = shaParamTypes
    case neg =>
      rw [if_pos htypes]
      exact ends_pure rfl
    rw [if_neg (not_not.mpr htypes)]
    refine digestLoop_ends fun hpos => usable_of_holds h (huntouched ?_)
    rw [shaProcessEffect, if_pos ⟨htypes, hpos⟩]
    exact fun hnone => nomatch hnone
  refine ends_bind (ends_mono hkept fun res w₁ h₁ => ends_pure ?_)
  unfold shaProcessEffect
  split
  · exact h.of_record h₁
  · exact h.of_record h₁

theorem shaStep_holds {s : Instance ℕ} (h : Holds s.phase s.statics s.world)
    (hcareful : ShaCareful E s r) :
    Holds (shaStep E s r).phase (shaStep E s r).statics (shaStep E s r).world := by
  have huntouched : shaEffect E s r ≠ .none → s.phase ≠ .dangling :=
    fun hne hp => hne (hcareful hp)
  show Ends (shaCall E.calls r s.statics) s.world fun out w' =>
    Holds (s.phase.next (shaEffect E s r)) out.2 w'
  cases r with
  | closeSession =>
    have hp : s.phase ≠ .dangling := huntouched fun hnone => nomatch hnone
    exact ends_bind (cleanRes_ends (ends_pure (freed_holds h hp)))
  | invoke commandId paramTypes params sdp =>
    unfold shaEffect at huntouched ⊢
    unfold shaCall
    dsimp only at huntouched ⊢
    by_cases hprepare : commandId = 0
    · rw [if_pos hprepare] at huntouched ⊢
      rw [if_pos hprepare]
      exact cmdPrepareOp_effect h huntouched
    rw [if_neg hprepare] at huntouched ⊢
    rw [if_neg hprepare]
    by_cases hprocess : commandId = 1
    · rw [if_pos hprocess] at huntouched ⊢
      rw [if_pos hprocess]
      exact shaCmdProcess_effect h huntouched
    · rw [if_neg hprocess, if_neg hprocess]
      exact ends_pure h

/-- In a run of careful calls, in any state it reaches, the handles of both TAs are sound. -/
theorem perf_lifetimes_sound (A : Arch) (cfgSecureDataPath : Bool) (E : Tee) :
    (∀ calls rest, ValidTrace (aesStep A cfgSecureDataPath E) (AesCareful E cfgSecureDataPath)
        aesStart (calls ++ rest) →
      LifetimesSound (runTrace (aesStep A cfgSecureDataPath E) aesStart calls).world) ∧
    (∀ calls rest, ValidTrace (shaStep E) (ShaCareful E) shaStart (calls ++ rest) →
      LifetimesSound (runTrace (shaStep E) shaStart calls).world) := by
  constructor
  · intro calls rest hvalid
    have hprefix := ((validTrace_append _ _ _).mp hvalid).1
    have hstart : Holds aesStart.phase aesStart.statics.cryptoOp aesStart.world :=
      ⟨rfl, iff_of_true rfl rfl⟩
    have hstep : ∀ s r, Holds s.phase s.statics.cryptoOp s.world →
        AesCareful E cfgSecureDataPath s r →
        Holds (aesStep A cfgSecureDataPath E s r).phase
          (aesStep A cfgSecureDataPath E s r).statics.cryptoOp
          (aesStep A cfgSecureDataPath E s r).world :=
      fun s r h hcareful => aesStep_holds h hcareful
    have hheld : Holds _ _ _ := invariant_run hstep hstart hprefix
    exact holds_sound hheld
  · intro calls rest hvalid
    have hprefix := ((validTrace_append _ _ _).mp hvalid).1
    have hstart : Holds shaStart.phase shaStart.statics shaStart.world :=
      ⟨rfl, iff_of_true rfl rfl⟩
    have hstep : ∀ s r, Holds s.phase s.statics s.world → ShaCareful E s r →
        Holds (shaStep E s r).phase (shaStep E s r).statics (shaStep E s r).world :=
      fun s r h hcareful => shaStep_holds h hcareful
    have hheld : Holds _ _ _ := invariant_run hstep hstart hprefix
    exact holds_sound hheld

def withoutCtr : Tee :=
  answering (fun c => match c with
    | .allocateOperation algo _ _ =>
      if algo = teeAlgAesCtr then teeErrorNotSupported else teeSuccess
    | _ => teeSuccess) fun _ => rfl

def prepareRequest (mode : UInt32) : Request :=
  .invoke 0 prepareTypes ![⟨⟨0, 128⟩, ⟨fun _ => 0, 0⟩⟩, ⟨⟨mode, 0⟩, ⟨fun _ => 0, 0⟩⟩,
    ⟨⟨0, 0⟩, ⟨fun _ => 0, 0⟩⟩, ⟨⟨0, 0⟩, ⟨fun _ => 0, 0⟩⟩] ⟨false, false, 0, 0, 0⟩

/-- The request of a mode that the TEE has, as long as its keys are released. -/
theorem careful_prepare {s : Instance AesStatics} {mode : UInt32} {params : TeeParams}
    {algo : UInt32} {useIv : Bool} (hr : prepareRequest mode =
      .invoke 0 prepareTypes params ⟨false, false, 0, 0, 0⟩) (hp : s.phase ≠ .dangling)
    (halgo : aesAlgorithm (params 1).value.a = some (algo, useIv))
    (hreleases : AesReleases withoutCtr s.world s.statics params algo) :
    AesCareful withoutCtr false s (prepareRequest mode) := by
  refine ⟨fun h => absurd h hp, fun _ _ _ _ _ _ hinvoke hprep => ?_⟩
  cases hr.symm.trans hinvoke
  cases halgo.symm.trans hprep.2.2
  exact hreleases

theorem careful_other {s : Instance AesStatics} {r : Request} (hp : s.phase ≠ .dangling)
    (hr : ∀ paramTypes params sdp, r ≠ .invoke 0 paramTypes params sdp) :
    AesCareful withoutCtr false s r := by
  refine ⟨fun h => absurd h hp, fun _ _ _ _ _ _ hinvoke hprep => ?_⟩
  rw [hprep.1] at hinvoke
  exact absurd hinvoke (hr _ _ _)

def processRequest (paramTypes : UInt32) : Request :=
  .invoke 1 paramTypes ![⟨⟨0, 0⟩, ⟨fun _ => 0, 16⟩⟩, ⟨⟨0, 0⟩, ⟨fun _ => 0, 32⟩⟩,
    ⟨⟨2, 0⟩, ⟨fun _ => 0, 0⟩⟩, ⟨⟨0, 0⟩, ⟨fun _ => 0, 0⟩⟩] ⟨false, false, 0, 0, 0⟩

def shaPrepareRequest : Request :=
  .invoke 0 shaPrepareTypes ![⟨⟨2, 0⟩, ⟨fun _ => 0, 0⟩⟩, ⟨⟨0, 0⟩, ⟨fun _ => 0, 0⟩⟩,
    ⟨⟨0, 0⟩, ⟨fun _ => 0, 0⟩⟩, ⟨⟨0, 0⟩, ⟨fun _ => 0, 0⟩⟩] ⟨false, false, 0, 0, 0⟩

/-- An operation is prepared and used, and a second one replaces it. -/
theorem lifetimes_sound_prepared_twice :
    LifetimesSound (runTrace (aesStep .arm64 false withoutCtr) aesStart
      [prepareRequest 0, processRequest aesParamTypes, prepareRequest 3]).world ∧
    LifetimesSound (runTrace (shaStep withoutCtr) shaStart
      [shaPrepareRequest, processRequest shaParamTypes, shaPrepareRequest]).world := by
  obtain ⟨haes, hsha⟩ := perf_lifetimes_sound .arm64 false withoutCtr
  have hplain (s : Instance AesStatics) (hp : s.phase ≠ .dangling) :
      AesCareful withoutCtr false s (processRequest aesParamTypes) :=
    careful_other hp fun _ _ _ h => by injection h with hcommand; exact absurd hcommand (by decide)
  refine ⟨haes _ [.closeSession] ⟨?_, hplain _ (by decide), ?_, ?_, trivial⟩,
    hsha _ [.closeSession] ?_⟩
  · exact careful_prepare rfl (by decide) rfl fun _ => .inr ⟨by rfl, by rfl⟩
  · exact careful_prepare rfl (by decide) rfl fun _ => .inr ⟨by rfl, by rfl, by rfl, by rfl⟩
  · exact careful_other (by decide) fun _ _ _ => Request.noConfusion
  · refine ⟨fun h => absurd h ?_, fun h => absurd h ?_, fun h => absurd h ?_,
      fun h => absurd h ?_, trivial⟩
    all_goals decide

/-- A prepare command that succeeds and one that cannot allocate its operation: the end of the
session frees the operation of the first a second time. -/
theorem operation_freed_twice :
    ¬ LifetimesSound (runTrace (aesStep .arm64 false withoutCtr) aesStart
      [prepareRequest 0, prepareRequest 2, .closeSession]).world := by
  intro hsound
  have htwice : (runTrace (aesStep .arm64 false withoutCtr) aesStart
      [prepareRequest 0, prepareRequest 2, .closeSession]).world.record.handles.misused = true := by
    rfl
  rw [hsound.unmisused] at htwice
  cases htwice

end PerfLifetimes
