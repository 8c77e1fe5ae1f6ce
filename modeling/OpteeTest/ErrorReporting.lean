import OpteeTest.CryptHandlers
import OpteeTest.KeyHandlers
import OpteeTest.EffectRuns

/-! # Failures of the API and the results of the handlers

A handler runs against an API whose answers may depend on all that happened before. The log of
a run tells which calls failed; the result of the handler should tell it too. -/
namespace ErrorReporting

open TeeApi AttrUnpack TeeCalls CryptHandlers StorageHandlers KeyHandlers LoggedRun

inductive Event where
  | answered (c : ApiCall) (r : ApiReply c)
  | allocated (size : ℕ) (granted : Bool)

structure Oracle (T : Arch) where
  taHead : ℕ
  base : UInt32 → ℕ
  base_fits : ∀ size, base size + size.toNat < T.word
  stackWord : UInt32
  fuel : ℕ
  grant : List Event → ℕ → Bool
  answer : List Event → (c : ApiCall) → ApiReply c

variable {T : Arch} (O : Oracle T)

def observed : TaEnv T (Logged Event) where
  taHead := O.taHead
  base := O.base
  base_fits := O.base_fits
  stackWord := O.stackWord
  malloc := fun size => perform (fun log => O.grant log size) (.allocated size)
  api := fun c => perform (fun log => O.answer log c) (.answered c)
  fuel := O.fuel
  stuck := failure

def Event.Failed : Event → Prop
  | .answered c r => c.returnsResult = true ∧ r.res ≠ teeSuccess
  | .allocated _ _ => False

def Event.Refused : Event → Prop
  | .answered _ _ => False
  | .allocated _ granted => granted = false

def Reported (res : TeeResult) (log : List Event) : Prop :=
  (∃ e ∈ log, e.Failed) → res ≠ teeSuccess

def Reports (x : Logged Event (TeeResult × TeeParams)) : Prop :=
  Emits x fun out log => Reported out.1 log

def Fails (x : Logged Event (TeeResult × TeeParams)) : Prop :=
  Emits x fun out _ => out.1 ≠ teeSuccess

theorem reported_nil (res : TeeResult) : Reported res [] := by
  rintro ⟨e, he, -⟩
  exact absurd he List.not_mem_nil

theorem reported_cons {res : TeeResult} {e : Event} {log : List Event} (he : ¬ e.Failed)
    (h : Reported res log) : Reported res (e :: log) := by
  rintro ⟨e', he', hfail⟩
  rcases List.mem_cons.mp he' with rfl | hmem
  · exact absurd hfail he
  · exact h ⟨e', hmem, hfail⟩

theorem reports_pure (out : TeeResult × TeeParams) : Reports (pure out) :=
  emits_pure (reported_nil _)

theorem fails_pure {res : TeeResult} (h : res ≠ teeSuccess) (params : TeeParams) :
    Fails (pure (res, params)) :=
  emits_pure h

variable {O}

/-- A run goes on after a call that succeeded, and has to fail after one that failed. -/
theorem reports_api {c : ApiCall} {f : ApiReply c → Logged Event (TeeResult × TeeParams)}
    (hgood : ∀ r, (c.returnsResult = true → r.res = teeSuccess) → Reports (f r))
    (hbad : ∀ r, c.returnsResult = true → r.res ≠ teeSuccess → Fails (f r)) :
    Reports ((observed O).api c >>= f) := by
  refine emits_perform fun r => ?_
  by_cases hfail : c.returnsResult = true ∧ r.res ≠ teeSuccess
  · exact emits_mono (hbad r hfail.1 hfail.2) fun _ _ hne _ => hne
  · refine emits_mono (hgood r fun hret => ?_) fun _ _ => reported_cons hfail
    by_contra hne
    exact hfail ⟨hret, hne⟩

theorem reports_malloc {n : ℕ} {f : Bool → Logged Event (TeeResult × TeeParams)}
    (hf : ∀ granted, Reports (f granted)) : Reports ((observed O).malloc n >>= f) :=
  emits_perform fun granted => emits_mono (hf granted) fun _ _ => reported_cons id

theorem reports_answer {c : ApiCall} {fin : ApiReply c → TeeResult × TeeParams}
    (hfin : c.returnsResult = true → ∀ r, (fin r).1 = r.res) :
    Reports ((observed O).api c >>= fun r => pure (fin r)) := by
  refine reports_api (fun r _ => reports_pure _) fun r hret hne => ?_
  exact emits_pure (by rwa [hfin hret])

theorem singleCall_reports {types : UInt32} {call : TeeParams → ApiCall}
    {fin : (c : ApiCall) → ApiReply c → TeeParams → TeeResult × TeeParams}
    (hfin : ∀ params, (call params).returnsResult = true →
      ∀ r : ApiReply (call params), (fin _ r params).1 = r.res) (paramTypes : UInt32)
    (params : TeeParams) :
    Reports (singleCall (observed O) types call (fun {c} r => fin c r) paramTypes params) := by
  rw [singleCall]
  split_ifs
  · exact reports_pure _
  · exact reports_answer (hfin params)

theorem void_reports {types : UInt32} {call : TeeParams → ApiCall}
    {fin : (c : ApiCall) → ApiReply c → TeeParams → TeeResult × TeeParams}
    (hvoid : ∀ params, (call params).returnsResult = false) (paramTypes : UInt32)
    (params : TeeParams) :
    Reports (singleCall (observed O) types call (fun {c} r => fin c r) paramTypes params) :=
  singleCall_reports (fun p hret => absurd hret (by rw [hvoid p]; exact Bool.false_ne_true)) _ _

theorem attrsCall_reports {types : UInt32} {call : TeeParams → List ApiAttr → ApiCall}
    {fin : (c : ApiCall) → ApiReply c → TeeParams → TeeResult × TeeParams}
    (hfin : ∀ params attrs, (call params attrs).returnsResult = true →
      ∀ r : ApiReply (call params attrs), (fin _ r params).1 = r.res) (paramTypes : UInt32)
    (params : TeeParams) :
    Reports (attrsCall (observed O) types call (fun {c} r => fin c r) paramTypes params) := by
  rw [attrsCall]
  split_ifs
  · exact reports_pure _
  · rw [withAttrs]
    dsimp only
    split_ifs
    · refine reports_malloc fun granted => ?_
      split_ifs
      · exact reports_pure _
      · exact reports_answer (hfin params _)
    · exact reports_pure _
    · exact reports_answer (hfin params _)

theorem initialise_reports {call : ℕ → Option (List UInt8) → ApiCall}
    (hvoid : ∀ o iv, (call o iv).returnsResult = false) (paramTypes : UInt32)
    (params : TeeParams) :
    Reports (CryptHandlers.initialise (observed O) call paramTypes params) := by
  have hcall (o : ℕ) (iv : Option (List UInt8)) : Reports
      ((observed O).api (call o iv) >>= fun _ => pure (teeSuccess, params)) :=
    reports_answer fun hret => absurd hret (by rw [hvoid]; exact Bool.false_ne_true)
  rw [CryptHandlers.initialise]
  split_ifs
  · exact hcall _ _
  · exact hcall _ _
  · exact reports_pure _

theorem getOperationInfo_reports (paramTypes : UInt32) (params : TeeParams) :
    Reports (taEntryGetOperationInfo (observed O) paramTypes params) := by
  rw [taEntryGetOperationInfo]
  split_ifs
  · exact reports_pure _
  · exact reports_pure _
  · exact reports_answer fun hret => absurd hret Bool.false_ne_true

theorem feed_reports {call : ℕ → List UInt8 → ApiCall}
    (hvoid : ∀ o l, (call o l).returnsResult = false) (paramTypes : UInt32) (params : TeeParams) :
    Reports (CryptHandlers.feed (observed O) call paramTypes params) :=
  void_reports (fun _ => hvoid _ _) _ _

theorem transform_reports (call : ℕ → List UInt8 → UInt32 → ApiCall) (paramTypes : UInt32)
    (params : TeeParams) : Reports (CryptHandlers.transform (observed O) call paramTypes params) :=
  singleCall_reports (fun _ _ _ => rfl) _ _

theorem asymmetric_reports (call : ℕ → List ApiAttr → List UInt8 → UInt32 → ApiCall)
    (paramTypes : UInt32) (params : TeeParams) :
    Reports (asymmetric (observed O) call paramTypes params) :=
  attrsCall_reports (fun _ _ _ _ => rfl) _ _

theorem crypt_reports (cmd : CryptCommand) (hcmd : cmd ≠ .aeUpdate) (paramTypes : UInt32)
    (params : TeeParams) : Reports (cmd.handler (observed O) paramTypes params) := by
  cases cmd with
  | aeUpdate => exact absurd rfl hcmd
  | allocateOperation | setOperationKey | setOperationKey2 | macFinalCompare
  | allocateTransientObject | copyObjectAttributes | aeInit | aeEncryptFinal | aeDecryptFinal
  | getObjectBufferAttribute | getObjectValueAttribute =>
    rw [CryptCommand.handler]
    exact singleCall_reports (fun _ _ _ => rfl) _ _
  | freeOperation | resetOperation | copyOperation | freeTransientObject | resetTransientObject
  | randomNumberGenerate =>
    rw [CryptCommand.handler]
    exact void_reports (fun _ => rfl) _ _
  | digestUpdate | macUpdate | aeUpdateAad =>
    rw [CryptCommand.handler]
    exact feed_reports (fun _ _ => rfl) _ _
  | digestDoFinal | cipherUpdate | cipherDoFinal | macFinalCompute =>
    rw [CryptCommand.handler]
    exact transform_reports _ _ _
  | asymmetricEncrypt | asymmetricDecrypt | asymmetricSignDigest =>
    rw [CryptCommand.handler]
    exact asymmetric_reports _ _ _
  | populateTransientObject | generateKey | asymmetricVerifyDigest =>
    rw [CryptCommand.handler]
    exact attrsCall_reports (fun _ _ _ _ => rfl) _ _
  | deriveKey =>
    rw [CryptCommand.handler]
    exact attrsCall_reports (fun _ _ hret => by exact absurd hret Bool.false_ne_true) _ _
  | cipherInit | macInit =>
    rw [CryptCommand.handler]
    exact initialise_reports (fun _ _ => rfl) _ _
  | getOperationInfo => exact getOperationInfo_reports _ _

theorem withId_reports {copying inShm command : UInt32} {id : TeeMemref} {params : TeeParams}
    {next : List UInt8 → Logged Event (TeeResult × TeeParams)} (hnext : ∀ id, Reports (next id)) :
    Reports (withId (observed O) copying inShm command id params next) := by
  rw [withId]
  split_ifs
  · refine reports_malloc fun granted => ?_
    cases granted with
    | false => exact reports_pure _
    | true => exact hnext _
  · exact hnext _
  · exact reports_pure _

/-- The commands that name a handle; with a dropped result only the void ones report. -/
theorem onHandle_reports {call : ℕ → ApiCall} (hvoid : ∀ o, (call o).returnsResult = false)
    (paramTypes : UInt32) (params : TeeParams) :
    Reports (onHandle (observed O) call paramTypes params) :=
  void_reports (fun _ => hvoid _) _ _

theorem allocEnum_reports (paramTypes : UInt32) (params : TeeParams) :
    Reports (StorageHandlers.allocEnum (observed O) paramTypes params) :=
  singleCall_reports (fun _ _ _ => rfl) _ _

theorem startEnum_reports (paramTypes : UInt32) (params : TeeParams) :
    Reports (StorageHandlers.startEnum (observed O) paramTypes params) :=
  singleCall_reports (fun _ _ _ => rfl) _ _

theorem nextObject_reports (wantsInfo : Bool) (params : TeeParams) :
    Reports (nextObject (observed O) wantsInfo params) := by
  rw [nextObject]
  split_ifs
  · exact reports_pure _
  · exact reports_answer fun _ _ => rfl

theorem nextEnum_reports (paramTypes : UInt32) (params : TeeParams) :
    Reports (nextEnum (observed O) paramTypes params) := by
  rw [nextEnum]
  split_ifs
  · exact reports_pure _
  · exact reports_pure _
  · exact reports_pure _
  · exact nextObject_reports _ _
  · exact reports_pure _
  · exact nextObject_reports _ _
  · exact reports_pure _

theorem seek_reports (paramTypes : UInt32) (params : TeeParams) :
    Reports (taStorageCmdSeek (observed O) paramTypes params) := by
  rw [taStorageCmdSeek]
  split_ifs
  · exact reports_pure _
  · refine reports_api (fun r hgood => ?_) fun r _ hne => ?_
    · rw [if_neg (not_not.mpr (hgood rfl))]
      exact reports_answer fun _ _ => rfl
    · rw [if_pos hne]
      exact fails_pure hne _

theorem createAndDelete_reports (storageId : UInt32) (params : TeeParams) (n i : ℕ) :
    Reports (createAndDelete (observed O) storageId n i >>= fun res => pure (res, params)) := by
  induction n generalizing i with
  | zero => exact reports_pure _
  | succ n ih =>
    rw [createAndDelete]
    simp only [bind_assoc]
    refine reports_api (fun c hc => ?_) fun c _ hne => ?_
    · rw [if_neg (not_not.mpr (hc rfl))]
      simp only [bind_assoc]
      refine reports_api (fun d hd => ?_) fun d _ hne => ?_
      · rw [if_neg (not_not.mpr (hd rfl))]
        exact ih (i + 1)
      · rw [if_pos hne, pure_bind]
        exact fails_pure hne _
    · rw [if_pos hne, pure_bind]
      exact fails_pure hne _

def StorageCommand.DropsNothing (c : StorageCommand) : Prop :=
  c ≠ .unlink ∧ c ≠ .restrictUsage ∧ c ≠ .keyInPersistent

theorem storage_reports (cmd : StorageCommand) (hcmd : StorageCommand.DropsNothing cmd)
    (paramTypes : UInt32) (params : TeeParams) :
    Reports (cmd.handler (observed O) paramTypes params) := by
  cases cmd with
  | unlink => exact absurd rfl hcmd.1
  | restrictUsage => exact absurd rfl hcmd.2.1
  | keyInPersistent => exact absurd rfl hcmd.2.2
  | «open» | openIdInShm =>
    rw [StorageCommand.handler, taStorageCmdOpen]
    split_ifs
    · exact reports_pure _
    · exact withId_reports fun _ => reports_answer fun _ _ => rfl
  | create | createIdInShm =>
    rw [StorageCommand.handler, taStorageCmdCreate]
    split_ifs
    · exact reports_pure _
    · exact withId_reports fun _ => reports_answer fun _ _ => rfl
  | createOverwrite | createoverIdInShm =>
    rw [StorageCommand.handler, taStorageCmdCreateOverwrite]
    split_ifs
    · exact reports_pure _
    · exact withId_reports fun _ => reports_answer fun _ _ => rfl
  | rename | renameIdInShm =>
    rw [StorageCommand.handler, taStorageCmdRename]
    split_ifs
    · exact reports_pure _
    · exact withId_reports fun _ => reports_answer fun _ _ => rfl
  | read | write | trunc | allocObj | getObjInfo =>
    rw [StorageCommand.handler]
    exact singleCall_reports (fun _ _ _ => rfl) _ _
  | close | freeEnum | resetEnum | freeObj | resetObj =>
    rw [StorageCommand.handler]
    exact onHandle_reports (fun _ => rfl) _ _
  | allocEnum => exact allocEnum_reports _ _
  | startEnum => exact startEnum_reports _ _
  | seek => exact seek_reports _ _
  | nextEnum => exact nextEnum_reports _ _
  | loop =>
    rw [StorageCommand.handler, taStorageCmdLoop]
    split_ifs
    · exact reports_pure _
    · exact createAndDelete_reports _ _ _ _

theorem storeGenerated_reports (transient : ℕ) (params : TeeParams) :
    Reports (storeGenerated (observed O) transient params) := by
  rw [storeGenerated]
  refine reports_api (fun i hi => ?_) fun i _ hne => ?_
  · rw [if_neg (not_not.mpr (hi rfl))]
    refine reports_malloc fun granted => ?_
    split_ifs
    · exact reports_pure _
    · refine reports_api (fun c hc => ?_) fun c _ hne => ?_
      · rw [if_neg (not_not.mpr (hc rfl))]
        exact reports_pure _
      · rw [if_pos hne]
        exact fails_pure hne _
    · exact reports_pure _
  · rw [if_pos hne]
    exact fails_pure hne _

theorem reports_then_free {x : Logged Event (TeeResult × TeeParams)} {c : ApiCall}
    (hx : Reports x) (hvoid : c.returnsResult = false) :
    Reports (x >>= fun out => (observed O).api c >>= fun _ => pure out) := by
  refine emits_bind hx fun out log hout => emits_perform fun r => emits_pure ?_
  rintro ⟨e, he, hfail⟩
  rcases List.mem_append.mp he with hmem | hmem
  · exact hout ⟨e, hmem, hfail⟩
  · rw [List.mem_singleton.mp hmem] at hfail
    exact absurd hfail.1 (by rw [hvoid]; exact Bool.false_ne_true)

theorem generate_reports (paramTypes : UInt32) (params : TeeParams) :
    Reports (taKeyCmdGenerate (observed O) paramTypes params) := by
  rw [taKeyCmdGenerate]
  split_ifs
  · exact reports_pure _
  · exact reports_pure _
  · refine reports_api (fun t ht => ?_) fun t _ hne => ?_
    · rw [if_neg (not_not.mpr (ht rfl))]
      refine reports_api (fun g hg => ?_) fun g _ hne => ?_
      · rw [if_neg (not_not.mpr (hg rfl))]
        exact reports_then_free (storeGenerated_reports _ _) rfl
      · rw [if_pos hne, pure_bind]
        exact emits_perform fun _ => emits_pure hne
    · rw [if_pos hne]
      exact fails_pure hne _

theorem keyOpen_reports (paramTypes : UInt32) (params : TeeParams) :
    Reports (taKeyCmdOpen (observed O) paramTypes params) := by
  rw [taKeyCmdOpen]
  split_ifs
  · exact reports_pure _
  · refine reports_malloc fun granted => ?_
    split_ifs
    · refine reports_api (fun r hr => ?_) fun r _ hne => ?_
      · rw [if_neg (not_not.mpr (hr rfl))]
        exact reports_pure _
      · rw [if_pos hne]
        exact fails_pure hne _
    · exact reports_pure _

def KeyCommand.DropsNothing (c : KeyCommand) : Prop :=
  c ≠ .list ∧ c ≠ .closeAndDelete ∧ c ≠ .getObjectBufferAttribute

theorem key_reports (cmd : KeyCommand) (hcmd : KeyCommand.DropsNothing cmd) (paramTypes : UInt32)
    (params : TeeParams) : Reports (cmd.handler (observed O) paramTypes params) := by
  cases cmd with
  | list => exact absurd rfl hcmd.1
  | closeAndDelete => exact absurd rfl hcmd.2.1
  | getObjectBufferAttribute => exact absurd rfl hcmd.2.2
  | generate => exact generate_reports _ _
  | «open» => exact keyOpen_reports _ _
  | allocEnum => exact allocEnum_reports _ _
  | startEnum => exact startEnum_reports _ _
  | nextEnum => exact nextEnum_reports _ _
  | close | freeEnum | resetEnum =>
    rw [KeyCommand.handler]
    exact onHandle_reports (fun _ => rfl) _ _
  | getObjectValueAttribute =>
    rw [KeyCommand.handler]
    exact singleCall_reports (fun _ _ _ => rfl) _ _

end ErrorReporting
