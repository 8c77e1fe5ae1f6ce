import OpteeTest.KeyHandlers
import OpteeTest.TeeRecord

/-! # Creating a key or nothing

`ta_key_cmd_generate` stores a generated key under a name of the client. The name is copied to a
block that ends in a terminator; the key and the block are released on every path. -/
namespace KeyCreation

open ByteMemory TeeApi HandleTransport TeeCalls HandleLedger TeeRecord
open StorageHandlers (teeTypeAes)
open KeyHandlers (namedKeyTypes nameBlock)

def nameCopy (params : TeeParams) : Memory UInt8 :=
  copyIn (copyIn (fun _ => 0) 0 (bytes (params 1).memref)) (params 1).memref.size.toNat [0]

def allocateKey (params : TeeParams) : ApiCall :=
  .allocateTransientObject teeTypeAes (params 2).value.b

/-- The id is the block without the terminator. -/
def createKey (transient : ℕ) (params : TeeParams) : ApiCall :=
  .createPersistentObject (params 0).value.a
    (slice (nameCopy params) 0 (params 1).memref.size.toNat) (params 2).value.a transient []

section
variable {m : Type → Type} [Monad m] (C : Calls m)

def createNamed (transient : ℕ) (params : TeeParams) : m (TeeResult × TeeParams) :=
  if (params 1).memref.size = 0 then pure (teeErrorBadParameters, params)
  else do
    let c ← C.api (createKey transient params)
    if c.res ≠ teeSuccess then pure (c.res, params)
    else pure (teeSuccess, putValue 3 (truncateHandle c.handle) (params 3).value.b params)

def storeGenerated (transient : ℕ) (params : TeeParams) : m (TeeResult × TeeParams) := do
  let g ← C.api (.generateKey transient (params 2).value.b [])
  if g.res ≠ teeSuccess then pure (g.res, params)
  else
    let i ← C.api (.getObjectInfo1 transient)
    if i.res ≠ teeSuccess then pure (i.res, params)
    else
      let granted ← C.malloc (nameBlock params)
      if ¬ granted then pure (teeErrorOutOfMemory, params)
      else
        C.wrote ⟨0, (params 1).memref.size.toNat⟩
        C.wrote ⟨(params 1).memref.size.toNat, 1⟩
        let out ← createNamed C transient params
        C.free
        pure out

def taKeyCmdGenerate (paramTypes : UInt32) (params : TeeParams) : m (TeeResult × TeeParams) :=
  if paramTypes ≠ namedKeyTypes then pure (teeErrorBadParameters, params)
  else if (params 2).value.b ≠ 128 ∧ (params 2).value.b ≠ 192 ∧ (params 2).value.b ≠ 256 then
    pure (teeErrorNotSupported, params)
  else do
    let t ← C.api (allocateKey params)
    if t.res ≠ teeSuccess then pure (t.res, params)
    else
      let out ← storeGenerated C t.handle params
      let _ ← C.api (.freeTransientObject t.handle)
      pure out

theorem slice_nameCopy (params : TeeParams) :
    slice (nameCopy params) 0 (params 1).memref.size.toNat = bytes (params 1).memref := by
  have hcopied := slice_copyIn (fun _ => 0) 0 (bytes (params 1).memref)
  rw [bytes, length_slice] at hcopied
  refine Eq.trans (slice_congr fun i hi => ?_) hcopied
  exact copyIn_before _ _ (by simpa using hi)

theorem storeGenerated_ofEnv [LawfulMonad m] {T : Arch} (E : TaEnv T m) (transient : ℕ)
    (params : TeeParams) :
    storeGenerated (ofEnv E) transient params =
      E.api (.generateKey transient (params 2).value.b []) >>= fun g =>
        if g.res ≠ teeSuccess then pure (g.res, params)
        else KeyHandlers.storeGenerated E transient params := by
  unfold storeGenerated KeyHandlers.storeGenerated
  refine bind_congr fun g => ?_
  split
  · rfl
  refine bind_congr fun i => ?_
  split
  · rfl
  refine bind_congr fun granted => ?_
  split
  · rfl
  simp only [ofEnv, createNamed, createKey, pure_bind, bind_pure]
  rw [slice_nameCopy]

/-- Where releases of blocks and writes are not seen, this is the handler of the key TA. -/
theorem taKeyCmdGenerate_ofEnv [LawfulMonad m] {T : Arch} (E : TaEnv T m) :
    taKeyCmdGenerate (ofEnv E) = KeyHandlers.taKeyCmdGenerate E := by
  funext paramTypes params
  unfold taKeyCmdGenerate KeyHandlers.taKeyCmdGenerate
  split
  · rfl
  split
  · rfl
  refine bind_congr fun t => ?_
  split
  · rfl
  rw [storeGenerated_ofEnv, bind_assoc]
  refine bind_congr fun g => ?_
  split
  · dsimp only
    rw [pure_bind, pure_bind]
    rfl
  · rfl
end

def WritesWithin (size : ℕ) (w w' : World) : Prop :=
  ∀ a, Event.wrote a ∈ w'.log → Event.wrote a ∈ w.log ∨ a.Within size

/-- A success leaves a new object with the name and the flags of the request, open and handed to
the client; a failure leaves nothing. The record is otherwise the same, so what was allocated has
been freed, and once. -/
structure Atomic (params : TeeParams) (w : World) (out : TeeResult × TeeParams) (w' : World) :
    Prop where
  writes : WritesWithin (nameBlock params) w w'
  success : out.1 = teeSuccess → ∃ handle,
    w.record.handles.owner (.object handle) = none ∧
    w'.record = { w.record with
      handles := w.record.handles.acquire
        (some ((params 0).value.a, bytes (params 1).memref)) (.object handle)
      objects := Function.update w.record.objects ((params 0).value.a, bytes (params 1).memref)
        (some (params 2).value.a) } ∧
    out.2 = putValue 3 (truncateHandle handle) (params 3).value.b params
  failure : out.1 ≠ teeSuccess → w'.record = w.record ∧ out.2 = params

variable {E : Tee} {w w' w'' : World} {params : TeeParams} {transient size : ℕ}
  {out : TeeResult × TeeParams}

theorem writes_push {e : Event} (h : ∀ a, e = .wrote a → a.Within size) :
    WritesWithin size w (w.push e) := by
  intro a ha
  rcases List.mem_append.mp ha with ha | ha
  · exact .inl ha
  · exact .inr (h a (List.mem_singleton.mp ha).symm)

theorem writes_called (size : ℕ) (c : ApiCall) : WritesWithin size w (E.called w c) :=
  writes_push (by simp)

theorem WritesWithin.trans (h : WritesWithin size w w') (h' : WritesWithin size w' w'') :
    WritesWithin size w w'' := by
  intro a ha
  rcases h' a ha with ha | ha
  · exact h a ha
  · exact .inr ha

theorem atomic_failed {res : TeeResult} (hwrites : WritesWithin (nameBlock params) w w')
    (hres : res ≠ teeSuccess) (hrecord : w'.record = w.record) :
    Atomic params w (res, params) w' :=
  ⟨hwrites, fun hsucc => absurd hsucc hres, fun _ => ⟨hrecord, rfl⟩⟩

theorem createNamed_ends (hkey : (w.record.handles.owner (.object transient)).isSome) :
    Ends (createNamed E.calls transient params) w (Atomic params w) := by
  have hbad : teeErrorBadParameters ≠ teeSuccess := by decide
  unfold createNamed
  split
  · exact ends_pure (atomic_failed (fun a ha => .inl ha) hbad rfl)
  have hlive : ∀ k ∈ used (createKey transient params), (w.record.handles.owner k).isSome := by
    simp [createKey, used, hkey]
  refine ends_api ?_
  split
  case isTrue hres =>
    exact ends_pure (atomic_failed (writes_called _ _) hres (called_failed hlive rfl hres))
  case isFalse hres =>
    rw [not_not] at hres
    refine ends_pure ⟨writes_called _ _, fun _ => ⟨_, ?_, ?_, rfl⟩, fun hfail => absurd rfl hfail⟩
    · exact E.fresh w (createKey transient params) _ _ hres rfl
    · rw [called_opened hlive rfl hres rfl]
      simp [createKey, Record.stored, slice_nameCopy]

/-- The name and its terminator stay inside the block that was granted for them. -/
theorem nameCopied_writes {n : ℕ} (w : World) (hblock : size = n + 1) :
    WritesWithin size w
      (((w.push (.allocated size true)).push (.wrote ⟨0, n⟩)).push (.wrote ⟨n, 1⟩)) := by
  refine (writes_push ?_).trans ((writes_push ?_).trans (writes_push ?_))
  · simp
  · intro a ha
    cases ha
    rw [Access.Within, hblock]
    exact (Nat.zero_add n).le.trans (Nat.le_succ n)
  · intro a ha
    cases ha
    rw [Access.Within, hblock]

/-- The block of the name is freed behind what it was allocated for. -/
theorem storeGenerated_ends (hname : (params 1).memref.size.toNat < 2 ^ 32 - 1)
    (hkey : (w.record.handles.owner (.object transient)).isSome) :
    Ends (storeGenerated E.calls transient params) w (Atomic params w) := by
  have hmemory : teeErrorOutOfMemory ≠ teeSuccess := by decide
  have hblock : nameBlock params = (params 1).memref.size.toNat + 1 :=
    Nat.mod_eq_of_lt (by omega)
  have hgenerated : (E.called w (.generateKey transient (params 2).value.b [])).record = w.record :=
    called_plain (by simp [used, hkey]) rfl fun _ => rfl
  have hwrites₁ := writes_called (E := E) (w := w) (nameBlock params)
    (.generateKey transient (params 2).value.b [])
  refine ends_api ?_
  split
  case isTrue hres => exact ends_pure (atomic_failed hwrites₁ hres hgenerated)
  generalize E.called w (.generateKey transient (params 2).value.b []) = w₁ at hgenerated hwrites₁ ⊢
  have hinfo : (E.called w₁ (.getObjectInfo1 transient)).record = w.record :=
    (called_plain (by simp [used, hgenerated, hkey]) rfl fun _ => rfl).trans hgenerated
  have hwrites₂ := hwrites₁.trans (writes_called (E := E) _ (.getObjectInfo1 transient))
  refine ends_api ?_
  split
  case isTrue hres => exact ends_pure (atomic_failed hwrites₂ hres hinfo)
  generalize E.called w₁ (.getObjectInfo1 transient) = w₂ at hinfo hwrites₂ ⊢
  refine ends_malloc ?_
  cases E.grant w₂ (nameBlock params)
  case false =>
    refine ends_pure (atomic_failed (hwrites₂.trans (writes_push (by simp))) hmemory ?_)
    exact hinfo
  case true =>
    refine ends_wrote (ends_wrote ?_)
    generalize hw₃ : ((w₂.push (.allocated (nameBlock params) true)).push
      (.wrote ⟨0, (params 1).memref.size.toNat⟩)).push
      (.wrote ⟨(params 1).memref.size.toNat, 1⟩) = w₃
    have hrecord : w₃.record = { w.record with blocks := w.record.blocks + 1 } := by
      subst hw₃
      simp [Record.after, hinfo]
    have hwrites₃ : WritesWithin (nameBlock params) w w₃ := by
      subst hw₃
      exact hwrites₂.trans (nameCopied_writes w₂ hblock)
    have hkey₃ : (w₃.record.handles.owner (.object transient)).isSome := by
      rw [hrecord]
      exact hkey
    refine ends_bind (ends_mono (createNamed_ends hkey₃) fun out w₄ h₄ => ends_free (ends_pure ?_))
    refine ⟨hwrites₃.trans (h₄.writes.trans (writes_push (by simp))), ?_, ?_⟩
    · intro hsucc
      obtain ⟨handle, hfresh, hstored, hout⟩ := h₄.success hsucc
      rw [hrecord] at hfresh hstored
      refine ⟨handle, hfresh, ?_, hout⟩
      rw [push_record, hstored]
      simp [Record.after]
    · intro hfail
      obtain ⟨hkept, hout⟩ := h₄.failure hfail
      refine ⟨?_, hout⟩
      rw [push_record, hkept, hrecord]
      simp [Record.after]

/-- Creating a key is atomic, whatever fails. -/
theorem key_generate_atomic (E : Tee) (w : World) (paramTypes : UInt32) (params : TeeParams)
    (hname : (params 1).memref.size.toNat < 2 ^ 32 - 1) :
    Atomic params w ((taKeyCmdGenerate E.calls paramTypes params).run w).1
      ((taKeyCmdGenerate E.calls paramTypes params).run w).2 := by
  have hbad : teeErrorBadParameters ≠ teeSuccess := by decide
  have hunsupported : teeErrorNotSupported ≠ teeSuccess := by decide
  show Ends _ w (Atomic params w)
  unfold taKeyCmdGenerate
  split
  · exact ends_pure (atomic_failed (fun a ha => .inl ha) hbad rfl)
  split
  · exact ends_pure (atomic_failed (fun a ha => .inl ha) hunsupported rfl)
  refine ends_api ?_
  split
  case isTrue hres =>
    refine ends_pure (atomic_failed (writes_called _ _) hres ?_)
    exact called_failed (by simp [allocateKey, used]) rfl hres
  case isFalse hres =>
    rw [not_not] at hres
    have hfresh : w.record.handles.owner
        (.object (E.answer w (allocateKey params)).handle) = none :=
      E.fresh w (allocateKey params) _ none hres rfl
    have hopened := called_opened (E := E) (w := w) (c := allocateKey params)
      (by simp [allocateKey, used]) rfl hres (o := none) rfl
    have hwrites := writes_called (E := E) (w := w) (nameBlock params) (allocateKey params)
    generalize E.called w (allocateKey params) = w₁ at hopened hwrites ⊢
    generalize E.answer w (allocateKey params) = t at hfresh hopened ⊢
    have hkey : (w₁.record.handles.owner (.object t.handle)).isSome := by simp [hopened]
    refine ends_bind (ends_mono (storeGenerated_ends hname hkey) fun out w₂ h₂ =>
      ends_api (ends_pure ?_))
    refine ⟨hwrites.trans (h₂.writes.trans (writes_called _ _)), ?_, ?_⟩
    · intro hsucc
      obtain ⟨handle, hnew, hstored, hout⟩ := h₂.success hsucc
      have hne : handle ≠ t.handle := by
        rintro rfl
        rw [hnew] at hkey
        cases hkey
      rw [hopened] at hnew hstored
      refine ⟨handle, ?_, ?_, hout⟩
      · simpa [hne] using hnew
      · rw [called_closed rfl rfl fun _ => rfl, hstored]
        simp [Record.stored, allocateKey, release_acquire_acquire hfresh, hne]
    · intro hfail
      obtain ⟨hkept, hout⟩ := h₂.failure hfail
      refine ⟨?_, hout⟩
      rw [called_closed rfl rfl fun _ => rfl, hkept, hopened]
      simp [Record.stored, allocateKey, release_acquire hfresh]

def namedRequest : TeeParams :=
  ![⟨⟨1, 0⟩, ⟨fun _ => 0, 0⟩⟩, ⟨⟨0, 0⟩, ⟨fun _ => 65, 3⟩⟩, ⟨⟨0x37, 256⟩, ⟨fun _ => 0, 0⟩⟩,
    ⟨⟨0, 0⟩, ⟨fun _ => 0, 0⟩⟩]

def granting : Tee := answering (fun _ => teeSuccess) fun _ => rfl

theorem atomic_named_request :
    Atomic namedRequest World.empty
      ((taKeyCmdGenerate granting.calls namedKeyTypes namedRequest).run World.empty).1
      ((taKeyCmdGenerate granting.calls namedKeyTypes namedRequest).run World.empty).2 :=
  key_generate_atomic granting World.empty namedKeyTypes namedRequest (by decide)

example : ((taKeyCmdGenerate granting.calls namedKeyTypes namedRequest).run
    World.empty).2.record.objects (1, [65, 65, 65]) = some 0x37 := rfl

end KeyCreation
