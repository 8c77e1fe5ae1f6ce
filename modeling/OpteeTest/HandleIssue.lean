import OpteeTest.HandleCapacity
import OpteeTest.HandleFreeing

/-! # The words that are issued for objects

A word is an index of the table under the tag of a type. With fewer than 2^28 live objects the
table never gets so large that an index reaches the tag bits, whatever was freed and reused. -/
namespace HandleIssue

open TeeApi GuardedRun HandleDatabase ArithTaf HandleWords TypedHandles HandleFreeing HandleCapacity

variable {β : Type*} {A : Arch} {s : ArithState β}

def FewLive (s : ArithState β) (_ : Request β) : Prop := (liveWords s.log).length < 2 ^ 28

instance (s : ArithState β) (r : Request β) : Decidable (FewLive s r) :=
  inferInstanceAs (Decidable (_ < _))

def Tagged (log : List Event) : Prop := ∀ T w p, .issued T w p ∈ log → w &&& htMask = T.tag

structure Spacious (A : Arch) (s : ArithState β) : Prop where
  bound : Bound False A s
  doubled : Doubled s.hdb.maxPtrs
  tagged : Tagged s.log

theorem initial_spacious (A : Arch) : Spacious A (initial : ArithState β) where
  bound := initial_bound False A
  doubled := Or.inl rfl
  tagged := fun _ _ _ h => absurd h List.not_mem_nil

/-- A table without a free slot has no more slots than there are live words. -/
theorem full_le_live {typed : Prop} (h : Bound typed A s)
    (hslot : emptySlot s.hdb s.hdb.maxPtrs 0 = none) :
    s.hdb.maxPtrs ≤ (liveWords s.log).length := by
  rw [← List.length_map fun l => index l.word]
  refine full_le_length hslot fun i hi => ?_
  obtain ⟨p, hp⟩ := Option.ne_none_iff_exists'.mp hi
  obtain ⟨T, hT⟩ := h.issued i p hp
  have hlt : i < 2 ^ 29 := by
    by_contra hge
    exact hi (cell_of_le h.wellSized (h.wellSized.fits.lt.trans (Nat.not_lt.mp hge)))
  exact List.mem_map.mpr ⟨_, hT, index_wordOf T hlt⟩

theorem doubled_room {n : ℕ} (h : Doubled n) (hlt : n < 2 ^ 28) (A : Arch) :
    FitsTable A (n * 2) := by
  have hhalf : n ≤ 2 ^ 27 := by
    rcases h with rfl | ⟨k, rfl⟩
    · exact Nat.zero_le _
    · have hfour : handleDbInitialMaxPtrs = 2 ^ 2 := rfl
      rw [hfour, ← Nat.pow_add] at hlt ⊢
      have hexp := (Nat.pow_lt_pow_iff_right (by decide)).mp hlt
      exact Nat.pow_le_pow_right (by decide) (by omega)
  cases A <;> simp only [FitsTable, Arch.sizeofPtr] <;> omega

theorem Spacious.tableRoom {r : Request β} (h : Spacious A s) (hfew : FewLive s r)
    (env : Allocator β) : TableRoom A s env := by
  intro hslot _
  exact doubled_room h.doubled ((full_le_live h.bound hslot).trans_lt hfew) A

theorem invoke_doubled (api : BigIntApi β) (r : Request β) (h : Spacious A s) :
    Doubled (invokeCommand api A s r).state.hdb.maxPtrs := by
  rcases invoke_grows api A s r with hsame | ⟨-, -, hgrow⟩
  · rw [hsame]
    exact h.doubled
  · rw [hgrow, newMaxPtrs, h.bound.wellSized.double]
    exact h.doubled.grown

theorem tagged_cons {e : Event} {log : List Event} (h : Tagged log)
    (he : ∀ T w p, e = .issued T w p → w &&& htMask = T.tag) : Tagged (e :: log) := by
  intro T w p hmem
  rcases List.mem_cons.mp hmem with heq | hmem
  · exact he T w p heq.symm
  · exact h T w p hmem

theorem teeFree_tagged (ptr : Option ℕ) (h : Tagged s.log) : Tagged (teeFree ptr s).log := by
  cases ptr with
  | none => exact h
  | some p => exact tagged_cons h fun _ _ _ => Event.noConfusion

theorem checkPt_tagged {t₀ t₁ t₂ t₃ : ParamType} {paramTypes : UInt32} {params : TeeParams}
    {body : Outcome β} (h : Tagged s.log) (hb : Tagged body.state.log) :
    Tagged (checkPt t₀ t₁ t₂ t₃ paramTypes params s body).state.log := by
  unfold checkPt
  split_ifs
  · exact h
  · exact hb

theorem publish_tagged {env : Allocator β} {params : TeeParams} {T : HandleType}
    {ptr : Option ℕ} {init : ℕ → ArithState β → ArithState β} (h : Bound False A s)
    (hp : ∀ p, ptr = some p → Fresh s p) (hr : TableRoom A s env) (ht : Tagged s.log)
    (hinit : ∀ p u, Tagged u.log → Tagged (init p u).log) :
    Tagged (publish A env params s T ptr init).state.log := by
  rcases publish_cases params T ptr init h hp hr with hpub | ⟨p, n, u, -, hu, -, hlog, hpub⟩
  · rw [hpub]
    exact teeFree_tagged ptr ht
  · rw [hpub]
    refine hinit p u ?_
    have htag := hu.live_tag (hlog ▸ List.mem_cons_self : ⟨T, wordOf T n, p⟩ ∈ liveWords u.log)
    rw [hlog]
    refine tagged_cons ht ?_
    rintro _ _ _ ⟨⟩
    exact htag

theorem newObject_tagged {env : Allocator β} (params : TeeParams) (T : HandleType)
    (len : UInt32) (x : β) (h : Spacious A s) (hr : TableRoom A s env) :
    Tagged (newObject A env params s T len x).state.log := by
  unfold newObject
  rcases teeMalloc_cases h.bound env (len * 4) with hm | ⟨p, y, hm, hp⟩
  · rw [hm]
    exact h.tagged
  · rw [hm]
    exact publish_tagged (h.bound.store p y) (some_fresh hp) hr h.tagged fun _ _ hu => hu

theorem newFmmCtx_tagged (api : BigIntApi β) {env : Allocator β} (paramTypes : UInt32)
    (params : TeeParams) (h : Spacious A s) (hr : TableRoom A s env) :
    Tagged (taEntryArithNewFmmCtx api A env paramTypes params s).state.log := by
  refine checkPt_tagged h.tagged ?_
  cases lookupHandle s .bigint (params 0).value.b with
  | none => exact h.tagged
  | some modulus =>
    generalize api.fmmContextSizeInU32 (params 0).value.a = len
    have hinit : ∀ (u : ArithState β), Tagged u.log →
        Tagged (u.record [.used .bigint (params 0).value.b modulus]).log :=
      fun _ hu => tagged_cons hu fun _ _ _ => Event.noConfusion
    dsimp only
    rcases teeMalloc_cases h.bound env (len * 4) with hm | ⟨p, y, hm, hp⟩
    · rw [hm]
      exact publish_tagged h.bound (by simp) hr h.tagged fun _ u hu => hinit u hu
    · rw [hm]
      exact publish_tagged (h.bound.store p y) (some_fresh hp) hr h.tagged fun _ u hu => hinit u hu

theorem putHandle_log {w : UInt32} {ptr : Option ℕ} {t : ArithState β}
    (h : putHandle w s = (ptr, t)) : t.log = s.log := by
  rw [putHandle_eq s rfl] at h
  obtain ⟨-, rfl⟩ := Prod.mk.inj h
  rfl

theorem freeHandle_tagged (paramTypes : UInt32) (params : TeeParams) (h : Tagged s.log) :
    Tagged (taEntryArithFreeHandle paramTypes params s).state.log := by
  unfold taEntryArithFreeHandle
  refine checkPt_tagged h ?_
  split
  next t hput =>
    change Tagged t.log
    rw [putHandle_log hput]
    exact h
  next p t hput =>
    refine teeFree_tagged (some p) ?_
    rw [putHandle_log hput]
    exact h

theorem invoke_tagged (api : BigIntApi β) (r : Request β) (h : Spacious A s)
    (hr : TableRoom A s r.env) : Tagged (invokeCommand api A s r).state.log := by
  by_cases hc : Creates r.cmd
  · obtain ⟨cmd, paramTypes, params, env⟩ := r
    rcases hc with rfl | rfl | rfl
    · exact checkPt_tagged h.tagged (newObject_tagged params _ _ _ h hr)
    · exact newFmmCtx_tagged api paramTypes params h hr
    · exact checkPt_tagged h.tagged (newObject_tagged params _ _ _ h hr)
  · by_cases hf : r.cmd = .freeHandle
    · simp only [invokeCommand, hf]
      exact freeHandle_tagged r.paramTypes r.params h.tagged
    · obtain ⟨us, hlog, hus⟩ := (plain_usesOnly api A s r hc hf).log
      rw [hlog]
      intro T w p hmem
      rcases List.mem_append.mp hmem with hmem | hmem
      · obtain ⟨o, -, q, heq, -⟩ := hus _ hmem
        exact Event.noConfusion heq
      · exact h.tagged T w p hmem

theorem invoke_spacious (api : BigIntApi β) (s : ArithState β) (r : Request β)
    (h : Spacious A s) (hfew : FewLive s r) : Spacious A (invokeCommand api A s r).state where
  bound := invoke_bound api s r h.bound False.elim fun _ => h.tableRoom hfew r.env
  doubled := invoke_doubled api r h
  tagged := invoke_tagged api r h (h.tableRoom hfew r.env)

structure WordsSound (s : ArithState β) : Prop where
  own : ∀ l ∈ liveWords s.log, lookupHandle s l.type l.word = some l.ptr ∧ (s.heap l.ptr).isSome
  other : ∀ l ∈ liveWords s.log, ∀ T, T ≠ l.type → lookupHandle s T l.word = none
  distinct : ∀ l ∈ liveWords s.log, ∀ k ∈ liveWords s.log, l ≠ k →
    l.ptr ≠ k.ptr ∧ l.word ≠ k.word ∧ index l.word ≠ index k.word
  issued : ∀ T w p, .issued T w p ∈ s.log → w ≠ taCryptArithInvalidHandle
  optional : (∀ w, optionalLookup s w = some none ↔ w = taCryptArithInvalidHandle) ∧
    ∀ l ∈ liveWords s.log, l.type = .bigint → optionalLookup s l.word = some (some l.ptr)

theorem tag_injective {T U : HandleType} (h : T.tag = U.tag) : T = U := by
  revert h
  cases T <;> cases U <;> decide

theorem invalid_untagged (T : HandleType) : taCryptArithInvalidHandle &&& htMask ≠ T.tag := by
  cases T <;> decide

theorem optionalLookup_invalid (s : ArithState β) (w : UInt32) :
    optionalLookup s w = some none ↔ w = taCryptArithInvalidHandle := by
  unfold optionalLookup
  split_ifs with hw
  · refine iff_of_false (fun h => ?_) hw
    obtain ⟨p, -, hp⟩ := Option.map_eq_some_iff.mp h
    exact Option.some_ne_none p hp
  · exact iff_of_true rfl (not_not.mp hw)

theorem Spacious.wordsSound (h : Spacious A s) : WordsSound s where
  own := by
    intro l hl
    exact ⟨h.bound.lookup_own hl, h.bound.live _ _ (h.bound.held l hl)⟩
  other := by
    intro l hl T hT
    have htag : ¬ l.type.tag = T.tag := fun htag => hT (tag_injective htag).symm
    rw [lookupHandle_eq h.bound, h.bound.live_tag hl, if_neg htag]
  distinct := by
    intro l hl k hk hne
    have hindex : index l.word ≠ index k.word := fun heq => hne (h.bound.unique l hl k hk heq)
    exact ⟨fun heq => hne (h.bound.ptr_unique hl hk heq), fun heq => hindex (congrArg index heq),
      hindex⟩
  issued := by
    rintro T w p hmem rfl
    exact invalid_untagged T (h.tagged T _ p hmem)
  optional := by
    refine ⟨optionalLookup_invalid s, fun l hl htype => ?_⟩
    have hvalid : l.word ≠ taCryptArithInvalidHandle := by
      intro heq
      exact invalid_untagged l.type (heq ▸ h.bound.live_tag hl)
    rw [optionalLookup, if_pos hvalid, ← htype, h.bound.lookup_own hl, Option.map_some]

/-- In every run of the arithmetical commands, whatever words the clients present. -/
theorem words_sound (api : BigIntApi β) (A : Arch) (rs : List (Request β))
    (hv : ValidTrace (fun s r => (invokeCommand api A s r).state) FewLive initial rs) :
    WordsSound (run api A rs) :=
  (invariant_run (invoke_spacious api) (initial_spacious A) hv).wordsSound

theorem words_sound_reuse : WordsSound (run intApi .arm32 reuseRequests) :=
  words_sound intApi .arm32 reuseRequests (by decide +kernel)

end HandleIssue
