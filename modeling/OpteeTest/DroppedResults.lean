import OpteeTest.ErrorReporting
import Mathlib.Data.List.Chain

/-! # Results that are dropped

Some handlers do not look at the result of a call. Their own result tells of a failure exactly
when nothing was dropped or something else made them fail. -/
namespace DroppedResults

open TeeApi TeeCalls CryptHandlers StorageHandlers KeyHandlers LoggedRun ErrorReporting

variable {T : Arch} {O : Oracle T}

inductive TaCommand where
  | crypt (c : CryptCommand)
  | storage (c : StorageCommand)
  | key (c : KeyCommand)
  deriving DecidableEq, Repr

def TaCommand.handler {m : Type → Type} [Monad m] (E : TaEnv T m) : TaCommand → Handler m
  | .crypt c => c.handler E
  | .storage c => c.handler E
  | .key c => c.handler E

/-- The calls whose `TEE_Result` the handler of the command does not look at. -/
def dropped : TaCommand → ApiCall → Bool
  | .crypt .aeUpdate, .aeUpdate _ _ _ => true
  | .storage .unlink, .closeAndDeletePersistentObject1 _ => true
  | .storage .restrictUsage, .restrictObjectUsage1 _ _ => true
  | .storage .keyInPersistent, .getObjectInfo1 _ => true
  | .storage .keyInPersistent, .closeAndDeletePersistentObject1 _ => true
  | .key .closeAndDelete, .closeAndDeletePersistentObject1 _ => true
  | .key .getObjectBufferAttribute, .getObjectInfo1 _ => true
  | .key .list, .getNextPersistentObject _ _ _ => true
  | _, _ => false

def Dropped (cmd : TaCommand) : Event → Prop
  | .answered c r => dropped cmd c = true ∧ c.returnsResult = true ∧ r.res ≠ teeSuccess
  | .allocated _ _ => False

def Kept (cmd : TaCommand) : Event → Prop
  | .answered c r => dropped cmd c = false ∧ c.returnsResult = true ∧ r.res ≠ teeSuccess
  | .allocated _ _ => False

def info : Event → Option TeeObjectInfo
  | .answered (.getObjectInfo1 _) r => some r.info
  | .answered (.getObjectInfo _) r => some r.info
  | _ => none

/-- Two object infos in a row belong to different keys; `prev` is the info before the log. -/
def InfosDiffer (prev : Option TeeObjectInfo) (log : List Event) : Prop :=
  ¬ (prev.toList ++ log.filterMap info).IsChain fun i j => checkObj i j = teeSuccess

def Stopped (cmd : TaCommand) (prev : Option TeeObjectInfo) (log : List Event) : Prop :=
  (∃ e ∈ log, Kept cmd e) ∨ (∃ e ∈ log, e.Refused) ∨ InfosDiffer prev log

/-- Nothing that fails is dropped, or something else makes the handler fail. -/
def NothingLost (cmd : TaCommand) (log : List Event) : Prop :=
  (∃ e ∈ log, Dropped cmd e) → Stopped cmd none log

structure Judged (cmd : TaCommand) (res : TeeResult) (log : List Event) : Prop where
  kept : (∃ e ∈ log, Kept cmd e) → res ≠ teeSuccess
  others : (∃ e ∈ log, Dropped cmd e) → (res ≠ teeSuccess ↔ Stopped cmd none log)

theorem failed_iff (cmd : TaCommand) (e : Event) : e.Failed ↔ Kept cmd e ∨ Dropped cmd e := by
  cases e with
  | answered c r =>
    simp only [Event.Failed, Kept, Dropped]
    cases dropped cmd c <;> simp
  | allocated n granted => simp only [Event.Failed, Kept, Dropped, or_self]

theorem reported_iff {cmd : TaCommand} {res : TeeResult} {log : List Event}
    (h : Judged cmd res log) : Reported res log ↔ NothingLost cmd log := by
  constructor
  · rintro hrep ⟨e, he, hdrop⟩
    exact (h.others ⟨e, he, hdrop⟩).mp (hrep ⟨e, he, (failed_iff cmd e).mpr (Or.inr hdrop)⟩)
  · rintro hlost ⟨e, he, hfail⟩
    rcases (failed_iff cmd e).mp hfail with hkept | hdrop
    · exact h.kept ⟨e, he, hkept⟩
    · exact (h.others ⟨e, he, hdrop⟩).mpr (hlost ⟨e, he, hdrop⟩)

theorem judged_of_reported {cmd : TaCommand} (hnone : ∀ c, dropped cmd c = false)
    {res : TeeResult} {log : List Event} (h : Reported res log) : Judged cmd res log := by
  constructor
  · rintro ⟨e, he, hkept⟩
    exact h ⟨e, he, (failed_iff cmd e).mpr (Or.inl hkept)⟩
  · rintro ⟨e, he, hdrop⟩
    cases e with
    | answered c r => exact absurd hdrop.1 (by rw [hnone]; exact Bool.false_ne_true)
    | allocated n granted => exact hdrop.elim

def Exact (cmd : TaCommand) (prev : Option TeeObjectInfo) (res : TeeResult) (log : List Event) :
    Prop :=
  res ≠ teeSuccess ↔ Stopped cmd prev log

variable {cmd : TaCommand} {prev : Option TeeObjectInfo} {res : TeeResult} {e : Event}
  {log : List Event}

theorem Exact.judged (h : Exact cmd none res log) : Judged cmd res log :=
  ⟨fun hkept => h.mpr (Or.inl hkept), fun _ => h⟩

theorem exact_nil (cmd : TaCommand) (prev : Option TeeObjectInfo) :
    Exact cmd prev teeSuccess [] := by
  have hchain : ¬ InfosDiffer prev [] := by
    cases prev with
    | none => exact not_not.mpr List.isChain_nil
    | some i => exact not_not.mpr (List.isChain_singleton i)
  simp [Exact, Stopped, hchain]

structure Neutral (cmd : TaCommand) (e : Event) : Prop where
  kept : ¬ Kept cmd e
  refused : ¬ e.Refused

theorem neutral_dropped {c : ApiCall} {r : ApiReply c} (hdrop : dropped cmd c = true) :
    Neutral cmd (.answered c r) := by
  refine ⟨?_, id⟩
  rintro ⟨hkept, -⟩
  rw [hdrop] at hkept
  exact Bool.noConfusion hkept

theorem neutral_void {c : ApiCall} {r : ApiReply c} (hvoid : c.returnsResult = false) :
    Neutral cmd (.answered c r) := by
  refine ⟨?_, id⟩
  rintro ⟨-, hret, -⟩
  rw [hvoid] at hret
  exact Bool.noConfusion hret

theorem neutral_success {c : ApiCall} {r : ApiReply c} (hres : r.res = teeSuccess) :
    Neutral cmd (.answered c r) :=
  ⟨fun hkept => hkept.2.2 hres, id⟩

theorem exact_skip (he : Neutral cmd e) (hinfo : info e = none) (h : Exact cmd prev res log) :
    Exact cmd prev res (e :: log) := by
  simpa [Exact, Stopped, InfosDiffer, he.kept, he.refused, hinfo] using h

theorem exact_append (he : Neutral cmd e) (hinfo : info e = none) (h : Exact cmd prev res log) :
    Exact cmd prev res (log ++ [e]) := by
  simpa [Exact, Stopped, InfosDiffer, he.kept, he.refused, hinfo, or_and_right, exists_or] using h

theorem exact_stop (he : Kept cmd e ∨ e.Refused) (hres : res ≠ teeSuccess) :
    Exact cmd prev res (e :: log) := by
  refine ⟨fun _ => ?_, fun _ => hres⟩
  rcases he with hkept | hrefused
  · exact Or.inl ⟨e, List.mem_cons_self, hkept⟩
  · exact Or.inr (Or.inl ⟨e, List.mem_cons_self, hrefused⟩)

theorem exact_failed {c : ApiCall} {r : ApiReply c} (hkeep : dropped cmd c = false)
    (hret : c.returnsResult = true) (hfail : r.res ≠ teeSuccess) (hres : res ≠ teeSuccess) :
    Exact cmd prev res (.answered c r :: log) :=
  exact_stop (Or.inl ⟨hkeep, hret, hfail⟩) hres

theorem infosDiffer_cons {j : TeeObjectInfo} (hinfo : info e = some j) :
    InfosDiffer prev (e :: log) ↔
      (∃ i ∈ prev, checkObj i j ≠ teeSuccess) ∨ InfosDiffer (some j) log := by
  cases prev with
  | none => simp [InfosDiffer, hinfo]
  | some i =>
    simp only [InfosDiffer, hinfo, List.filterMap_cons, Option.toList_some, List.cons_append,
      List.nil_append, List.isChain_cons_cons, not_and_or, Option.mem_some_iff, exists_eq_left',
      ne_eq]

theorem exact_info {j : TeeObjectInfo} (he : Neutral cmd e) (hinfo : info e = some j)
    (hsame : ∀ i ∈ prev, checkObj i j = teeSuccess) (h : Exact cmd (some j) res log) :
    Exact cmd prev res (e :: log) := by
  have hnone : ¬ ∃ i ∈ prev, checkObj i j ≠ teeSuccess := by
    rintro ⟨i, hi, hne⟩
    exact hne (hsame i hi)
  rw [Exact, Stopped, infosDiffer_cons hinfo, or_iff_right hnone]
  simpa [Exact, Stopped, he.kept, he.refused] using h

theorem exact_differ {i j : TeeObjectInfo} (hinfo : info e = some j) (hi : i ∈ prev)
    (hne : checkObj i j ≠ teeSuccess) (hres : res ≠ teeSuccess) :
    Exact cmd prev res (e :: log) :=
  ⟨fun _ => Or.inr (Or.inr ((infosDiffer_cons hinfo).mpr (Or.inl ⟨i, hi, hne⟩))), fun _ => hres⟩

theorem dropped_judged {c : ApiCall} {r : ApiReply c} (hdrop : dropped cmd c = true)
    (hinfo : info (.answered c r) = none) :
    Judged cmd teeSuccess [.answered c r] :=
  (exact_skip (neutral_dropped hdrop) hinfo (exact_nil cmd none)).judged

theorem judged_nil (cmd : TaCommand) (res : TeeResult) : Judged cmd res [] := by
  constructor
  · rintro ⟨e, he, -⟩
    exact absurd he List.not_mem_nil
  · rintro ⟨e, he, -⟩
    exact absurd he List.not_mem_nil

def Judges (cmd : TaCommand) (x : Logged Event (TeeResult × TeeParams)) : Prop :=
  Emits x fun out log => Judged cmd out.1 log

theorem judges_mismatch (cmd : TaCommand) (out : TeeResult × TeeParams) :
    Judges cmd (pure out) :=
  emits_pure (judged_nil cmd out.1)

theorem singleCall_judges {types : UInt32} {call : TeeParams → ApiCall}
    {fin : (c : ApiCall) → ApiReply c → TeeParams → TeeResult × TeeParams}
    (hdrop : ∀ params, dropped cmd (call params) = true)
    (hinfo : ∀ params r, info (.answered (call params) r) = none)
    (hfin : ∀ params (r : ApiReply (call params)), (fin _ r params).1 = teeSuccess)
    (paramTypes : UInt32) (params : TeeParams) :
    Judges cmd (singleCall (observed O) types call (fun {c} r => fin c r) paramTypes params) := by
  rw [singleCall]
  split_ifs
  · exact judges_mismatch _ _
  · refine emits_perform fun r => emits_pure ?_
    rw [hfin]
    exact dropped_judged (hdrop params) (hinfo params r)

theorem onHandle_judges {call : ℕ → ApiCall} (hdrop : ∀ o, dropped cmd (call o) = true)
    (hinfo : ∀ o r, info (.answered (call o) r) = none) (paramTypes : UInt32)
    (params : TeeParams) : Judges cmd (onHandle (observed O) call paramTypes params) :=
  singleCall_judges (fun _ => hdrop _) (fun _ _ => hinfo _ _) (fun _ _ => rfl) _ _

theorem aeUpdate_judges (paramTypes : UInt32) (params : TeeParams) :
    Judges (.crypt .aeUpdate) (taEntryAeUpdate (observed O) paramTypes params) := by
  rw [taEntryAeUpdate]
  exact singleCall_judges (fun _ => rfl) (fun _ _ => rfl) (fun _ _ => rfl) _ _

theorem restrictUsage_judges (paramTypes : UInt32) (params : TeeParams) :
    Judges (.storage .restrictUsage)
      (taStorageCmdRestrictUsage (observed O) paramTypes params) := by
  rw [taStorageCmdRestrictUsage]
  exact singleCall_judges (fun _ => rfl) (fun _ _ => rfl) (fun _ _ => rfl) _ _

theorem kept_or_success {c : ApiCall} {r : ApiReply c} (hkeep : dropped cmd c = false)
    (hret : c.returnsResult = true) (hinfo : info (.answered c r) = none) :
    Exact cmd prev r.res [.answered c r] := by
  by_cases hres : r.res = teeSuccess
  · rw [hres]
    exact exact_skip (neutral_success hres) hinfo (exact_nil cmd prev)
  · exact exact_failed hkeep hret hres hres

theorem getObjectBufferAttribute_judges (paramTypes : UInt32) (params : TeeParams) :
    Judges (.key .getObjectBufferAttribute)
      (taKeyCmdGetObjectBufferAttribute (observed O) paramTypes params) := by
  rw [taKeyCmdGetObjectBufferAttribute]
  split_ifs
  · exact judges_mismatch _ _
  · refine emits_perform fun i => emits_perform fun r => emits_pure ?_
    exact (exact_info (neutral_dropped rfl) rfl (fun _ hi => by cases hi)
      (kept_or_success rfl rfl rfl)).judged

theorem listObjects_emits (enumerator : ℕ) (fuel : ℕ) (objectIDLen : UInt32) :
    Emits (listObjects (observed O) enumerator objectIDLen fuel) fun _ log =>
      ∀ e ∈ log, Neutral (.key .list) e ∧ info e = none := by
  have hneutral (len : UInt32) (r : ApiReply (.getNextPersistentObject enumerator true len)) :
      Neutral (.key .list) (.answered _ r) ∧ info (.answered _ r) = none :=
    ⟨neutral_dropped rfl, rfl⟩
  induction fuel generalizing objectIDLen with
  | zero => exact emits_failure
  | succ fuel ih =>
    refine emits_perform fun r => ?_
    split_ifs
    · refine emits_mono (ih r.size) fun _ log hlog e he => ?_
      rcases List.mem_cons.mp he with rfl | hmem
      · exact hneutral _ r
      · exact hlog e hmem
    · refine emits_pure fun e he => ?_
      rw [List.mem_singleton.mp he]
      exact hneutral _ r

theorem exact_neutral (hlog : ∀ e ∈ log, Neutral cmd e ∧ info e = none) :
    Exact cmd prev teeSuccess log := by
  induction log with
  | nil => exact exact_nil cmd prev
  | cons e log ih =>
    obtain ⟨hneutral, hinfo⟩ := hlog e List.mem_cons_self
    exact exact_skip hneutral hinfo (ih fun e' he => hlog e' (List.mem_cons_of_mem _ he))

theorem list_judges (paramTypes : UInt32) (params : TeeParams) :
    Judges (.key .list) (taKeyCmdList (observed O) paramTypes params) := by
  rw [taKeyCmdList]
  split_ifs
  · exact judges_mismatch _ _
  · refine emits_perform fun e => ?_
    by_cases he : e.res = teeSuccess
    · rw [if_neg (not_not.mpr he)]
      refine emits_perform fun s => ?_
      by_cases hs : s.res = teeSuccess
      · rw [if_pos hs, hs]
        refine emits_bind (listObjects_emits e.handle _ _) fun _ log hlog =>
          emits_perform fun r => emits_pure ?_
        have hfree : Neutral (.key .list) (.answered _ r) := neutral_void rfl
        exact (exact_skip (neutral_success he) rfl (exact_skip (neutral_success hs) rfl
          (exact_append hfree rfl (exact_neutral hlog)))).judged
      · rw [if_neg hs]
        refine emits_perform fun r => emits_pure ?_
        exact (exact_skip (neutral_success he) rfl (exact_failed rfl rfl hs hs)).judged
    · rw [if_pos he]
      exact emits_pure (exact_failed rfl rfl he he).judged

/-- A part of the self test whose result is a success when nothing makes it fail. -/
def Settles (prev : Option TeeObjectInfo) (x : Logged Event TeeResult) : Prop :=
  Emits x fun res log => Exact (.storage .keyInPersistent) prev res log

def Ends (x : Logged Event TeeResult) : Prop := Emits x fun res _ => res ≠ teeSuccess

section
variable {c : ApiCall} {f : ApiReply c → Logged Event TeeResult}

theorem settles_kept (hkeep : dropped (.storage .keyInPersistent) c = false)
    (hret : c.returnsResult = true) (hinfo : ∀ r, info (.answered c r) = none)
    (hgood : ∀ r, r.res = teeSuccess → Settles prev (f r))
    (hbad : ∀ r, r.res ≠ teeSuccess → Ends (f r)) :
    Settles prev ((observed O).api c >>= f) := by
  refine emits_perform fun r => ?_
  by_cases hres : r.res = teeSuccess
  · exact emits_mono (hgood r hres) fun _ _ => exact_skip (neutral_success hres) (hinfo r)
  · exact emits_mono (hbad r hres) fun _ _ hne => exact_failed hkeep hret hres hne

theorem settles_neutral (hneutral : ∀ r, Neutral (.storage .keyInPersistent) (.answered c r))
    (hinfo : ∀ r, info (.answered c r) = none) (hf : ∀ r, Settles prev (f r)) :
    Settles prev ((observed O).api c >>= f) :=
  emits_perform fun r => emits_mono (hf r) fun _ _ => exact_skip (hneutral r) (hinfo r)

theorem settles_info (hneutral : ∀ r, Neutral (.storage .keyInPersistent) (.answered c r))
    (hinfo : ∀ r, info (.answered c r) = some r.info)
    (hsame : ∀ r, (∀ i ∈ prev, checkObj i r.info = teeSuccess) → Settles (some r.info) (f r))
    (hdiffer : ∀ r, ∀ i ∈ prev, checkObj i r.info ≠ teeSuccess → Ends (f r)) :
    Settles prev ((observed O).api c >>= f) := by
  refine emits_perform fun r => ?_
  by_cases hall : ∀ i ∈ prev, checkObj i r.info = teeSuccess
  · exact emits_mono (hsame r hall) fun _ _ => exact_info (hneutral r) (hinfo r) hall
  · obtain ⟨i, hi, hne⟩ : ∃ i ∈ prev, checkObj i r.info ≠ teeSuccess := by
      simpa only [not_forall, exists_prop] using hall
    exact emits_mono (hdiffer r i hi hne) fun _ _ => exact_differ (hinfo r) hi hne

end

theorem checkObj_comm (i j : TeeObjectInfo) : checkObj i j = checkObj j i := by
  unfold checkObj
  simp only [ne_comm]

theorem useKey_settles (key : ℕ) (i : TeeObjectInfo) :
    Settles (some i) (useKey (observed O) key i) := by
  have hmemory : teeErrorOutOfMemory ≠ teeSuccess := by decide
  rw [useKey]
  refine settles_kept rfl rfl (fun _ => rfl) (fun o ho => ?_) fun o hne => ?_
  · rw [if_neg (not_not.mpr ho)]
    simp only [pure_bind]
    refine settles_kept rfl rfl (fun _ => rfl) (fun k hk => ?_) fun k hne => ?_
    · rw [if_neg (not_not.mpr hk), hk]
      refine emits_perform fun granted => ?_
      cases granted with
      | false =>
        exact emits_perform fun _ => emits_perform fun _ => emits_pure
          (exact_stop (Or.inr rfl) hmemory)
      | true =>
        refine emits_mono ?_ fun _ _ => exact_skip ⟨id, Bool.noConfusion⟩ rfl
        refine settles_neutral (fun _ => neutral_void rfl) (fun _ => rfl) fun _ => ?_
        refine settles_neutral (fun _ => neutral_void rfl) (fun _ => rfl) fun _ => ?_
        refine settles_neutral (fun _ => neutral_dropped rfl) (fun _ => rfl) fun _ => ?_
        exact emits_pure (exact_nil _ _)
    · rw [if_pos hne]
      exact emits_perform fun _ => emits_perform fun _ => emits_pure hne
  · rw [if_pos hne, pure_bind]
    exact emits_perform fun _ => emits_pure hne

theorem storeKey_settles (storageId : UInt32) (transient : ℕ) :
    Settles none (storeKey (observed O) storageId transient) := by
  rw [storeKey]
  refine settles_kept rfl rfl (fun _ => rfl) (fun g hg => ?_) fun g hne => ?_
  · rw [if_neg (not_not.mpr hg)]
    refine settles_info (fun _ => neutral_dropped rfl) (fun _ => rfl) (fun i1 _ => ?_)
      fun i1 _ hi => nomatch hi
    refine settles_kept rfl rfl (fun _ => rfl) (fun c hc => ?_) fun c hne => ?_
    · rw [if_neg (not_not.mpr hc)]
      refine settles_info (fun _ => neutral_dropped rfl) (fun _ => rfl) (fun i2 hsame => ?_)
        fun i2 i hi hdiffer => ?_
      · rw [if_neg (not_not.mpr (hsame i1.info rfl))]
        refine settles_neutral (fun _ => neutral_void rfl) (fun _ => rfl) fun _ => ?_
        refine settles_kept rfl rfl (fun _ => rfl) (fun o ho => ?_) fun o hne => ?_
        · rw [if_neg (not_not.mpr ho)]
          refine settles_info (fun _ => neutral_void rfl) (fun _ => rfl) (fun i3 hsame => ?_)
            fun i3 i hi hdiffer => ?_
          · rw [checkObj_comm, if_neg (not_not.mpr (hsame i2.info rfl))]
            exact useKey_settles _ _
          · cases hi
            rw [checkObj_comm, if_pos hdiffer]
            exact emits_pure hdiffer
        · rw [if_pos hne]
          exact emits_pure hne
      · cases hi
        rw [if_pos hdiffer]
        exact emits_pure hdiffer
    · rw [if_pos hne]
      exact emits_pure hne
  · rw [if_pos hne]
    exact emits_pure hne

theorem keyInPersistent_judges (paramTypes : UInt32) (params : TeeParams) :
    Judges (.storage .keyInPersistent)
      (taStorageCmdKeyInPersistent (observed O) paramTypes params) := by
  rw [taStorageCmdKeyInPersistent]
  split_ifs
  · exact judges_mismatch _ _
  · refine emits_perform fun t => ?_
    by_cases ht : t.res = teeSuccess
    · rw [if_neg (not_not.mpr ht)]
      refine emits_bind (storeKey_settles _ _) fun res log hexact =>
        emits_perform fun r => emits_pure ?_
      exact (exact_skip (neutral_success ht) rfl
        (exact_append (neutral_void rfl) rfl hexact)).judged
    · rw [if_pos ht]
      exact emits_pure (exact_failed rfl rfl ht ht).judged

theorem handler_judges (cmd : TaCommand) (paramTypes : UInt32) (params : TeeParams) :
    Judges cmd (cmd.handler (observed O) paramTypes params) := by
  have hreports {c : TaCommand} {x : Logged Event (TeeResult × TeeParams)}
      (hnone : ∀ call, dropped c call = false) (hx : Reports x) : Judges c x :=
    emits_mono hx fun _ _ => judged_of_reported hnone
  cases cmd with
  | crypt c =>
    by_cases hc : c = .aeUpdate
    · subst hc
      exact aeUpdate_judges _ _
    · have hnone (call : ApiCall) : dropped (.crypt c) call = false := by
        cases c <;> first | rfl | exact absurd rfl hc
      exact hreports hnone (crypt_reports c hc _ _)
  | storage c =>
    by_cases hc : StorageCommand.DropsNothing c
    · have hnone (call : ApiCall) : dropped (.storage c) call = false := by
        cases c <;> first | rfl | simp [StorageCommand.DropsNothing] at hc
      exact hreports hnone (storage_reports c hc _ _)
    · cases c with
      | unlink => exact onHandle_judges (fun _ => rfl) (fun _ _ => rfl) _ _
      | restrictUsage => exact restrictUsage_judges _ _
      | keyInPersistent => exact keyInPersistent_judges _ _
      | _ => exact absurd ⟨by decide, by decide, by decide⟩ hc
  | key c =>
    by_cases hc : KeyCommand.DropsNothing c
    · have hnone (call : ApiCall) : dropped (.key c) call = false := by
        cases c <;> first | rfl | simp [KeyCommand.DropsNothing] at hc
      exact hreports hnone (key_reports c hc _ _)
    · cases c with
      | list => exact list_judges _ _
      | closeAndDelete => exact onHandle_judges (fun _ => rfl) (fun _ _ => rfl) _ _
      | getObjectBufferAttribute => exact getObjectBufferAttribute_judges _ _
      | _ => exact absurd ⟨by decide, by decide, by decide⟩ hc

/-- A run of a handler tells of every failure exactly when nothing that failed was lost. -/
theorem failures_reported_iff (O : Oracle T) (cmd : TaCommand) (paramTypes : UInt32)
    (params : TeeParams) {out : TeeResult × TeeParams} {log : List Event}
    (hrun : cmd.handler (observed O) paramTypes params [] = some (out, log)) :
    Reported out.1 log ↔ NothingLost cmd log := by
  obtain ⟨new, hlog, hjudged⟩ := handler_judges cmd paramTypes params [] out log hrun
  rw [List.nil_append] at hlog
  rw [hlog]
  exact reported_iff hjudged

def failing : Oracle .arm64 where
  taHead := 0
  base := fun _ => 4096
  base_fits := page_fits
  stackWord := 0
  fuel := 0
  grant := fun _ _ => true
  answer := fun _ c => bareReply c teeErrorGeneric

def objectParams : TeeParams := fun _ => ⟨⟨7, 0⟩, ⟨fun _ => 0, 0⟩⟩

def unlinkLog : List Event :=
  [.answered (.closeAndDeletePersistentObject1 7)
    (bareReply (.closeAndDeletePersistentObject1 7) teeErrorGeneric)]

theorem unlink_run : (TaCommand.storage .unlink).handler (observed failing) objectTypes
    objectParams [] = some ((teeSuccess, objectParams), unlinkLog) :=
  rfl

theorem unlink_reported_iff : Reported teeSuccess unlinkLog ↔
    NothingLost (.storage .unlink) unlinkLog :=
  failures_reported_iff failing (.storage .unlink) objectTypes objectParams unlink_run

/-- An object that could not be deleted is reported as deleted. -/
theorem unlink_failure_lost : (TaCommand.storage .unlink).handler (observed failing) objectTypes
    objectParams [] = some ((teeSuccess, objectParams), unlinkLog) ∧
    ¬ Reported teeSuccess unlinkLog := by
  refine ⟨unlink_run, fun hrep => ?_⟩
  have hfailed : (Event.answered (.closeAndDeletePersistentObject1 7)
      (bareReply (.closeAndDeletePersistentObject1 7) teeErrorGeneric)).Failed :=
    ⟨rfl, show teeErrorGeneric ≠ teeSuccess by decide⟩
  exact hrep ⟨_, List.mem_singleton.mpr rfl, hfailed⟩ rfl

end DroppedResults
