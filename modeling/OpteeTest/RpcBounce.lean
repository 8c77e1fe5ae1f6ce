import OpteeTest.RpcCallCryp

/-! # The bounce buffers of calls between applications

`rpc_call_cryp` loop by loop, with a log of its allocations and copies. The log is replayed against
the blocks that are live: the copies back stay inside them as long as the called application leaves
no output with more than it was given. -/
namespace RpcBounce

open ByteMemory TeeApi ClientApi TeeCalls RpcCallCryp

inductive Place where
  | caller (n : Fin 4)
  | bounce (n : Fin 4)
  deriving DecidableEq

inductive Event where
  | malloc (n : Fin 4) (size : UInt32)
  | moved (dst src : Place) (len : UInt32)
  | free (n : Fin 4)
  deriving DecidableEq

inductive Outcome where
  | panicked (log : List Event)
  | returned (res : TeeResult) (c : Caller) (log : List Event)

def copyInEvents (t : UInt32) (n : Fin 4) (r : Memref ℕ) : List Event :=
  if IsMemref t then
    .malloc n r.size :: if t ≠ ParamType.code .memrefOutput then
      [.moved (.bounce n) (.caller n) r.size] else []
  else []

def copyOutEvents (t : UInt32) (n : Fin 4) (q : Param Pointer) : List Event :=
  if IsMemref t then
    (if t ≠ ParamType.code .memrefInput then
      [.moved (.caller n) (.bounce n) q.memref.size] else []) ++ [.free n]
  else []

variable (W : World) (granted : Fin 4 → Bool) (types : UInt32)

/-- The first loop, and whether it comes to its end; `granted` says which blocks there are. -/
def copyInLoop : List (Fin 4) → State → List Event → Bool × State × List Event
  | [], s, log => (true, s, log)
  | n :: ns, s, log =>
    let t := paramTypeGet types n
    if IsMemref t ∧ granted n = false then (false, s, log)
    else copyInLoop ns (copyParamIn types s n) (log ++ copyInEvents t n (s.pParams n).memref)

def copyOutLoop : List (Fin 4) → State → List Event → State × List Event
  | [], s, log => (s, log)
  | n :: ns, s, log =>
    copyOutLoop ns (copyParamOut types s n)
      (log ++ copyOutEvents (paramTypeGet types n) n (s.params n))

def rpcCallCrypLogged (secMem : Bool) (c : Caller) (cmd : UInt32) : Outcome :=
  if W.opened ≠ teeSuccess then .returned W.opened c []
  else if secMem then
    let (done, s, log) := copyInLoop granted types (List.finRange 4)
      ⟨zeroParams, c.pParams, ⟨c.mem, W.heap⟩⟩ []
    if done then
      let (res, params, space) := teeInvokeTaCommand W.ta cmd types s.params s.space
      let (s, log) := copyOutLoop types (List.finRange 4) ⟨params, s.pParams, space⟩ log
      .returned res ⟨s.pParams, s.space.caller⟩ log
    else .panicked log
  else
    let (res, _, space) := teeInvokeTaCommand W.ta cmd types (shallow c.pParams) ⟨c.mem, W.heap⟩
    .returned res ⟨c.pParams, space.caller⟩ []

variable {W granted types} {ns : List (Fin 4)} {s : State} {log : List Event} {c : Caller}
  {secMem : Bool} {cmd : UInt32}

def AllGranted (granted : Fin 4 → Bool) (types : UInt32) (ns : List (Fin 4)) : Prop :=
  ∀ n ∈ ns, IsMemref (paramTypeGet types n) → granted n = true

theorem copyInLoop_granted (hall : AllGranted granted types ns) :
    copyInLoop granted types ns s log = (true, ns.foldl (copyParamIn types) s,
      log ++ ns.flatMap fun i => copyInEvents (paramTypeGet types i) i (s.pParams i).memref) := by
  induction ns generalizing s log with
  | nil => simp [copyInLoop]
  | cons n ns ih =>
    have hgo : ¬ (IsMemref (paramTypeGet types n) ∧ granted n = false) := by
      rintro ⟨hmem, hno⟩
      rw [hall n List.mem_cons_self hmem] at hno
      exact absurd hno (by decide)
    rw [copyInLoop, if_neg hgo, ih fun i hi => hall i (List.mem_cons_of_mem n hi),
      List.foldl_cons, List.flatMap_cons, List.append_assoc]
    rfl

/-- A loop that does not come to its end has copied in some of the parameters. -/
theorem copyInLoop_refused (log : List Event) (hall : ¬ AllGranted granted types ns) :
    ∃ (ms : List (Fin 4)) (s' : State), ms.IsPrefix ns ∧
      copyInLoop granted types ns s log = (false, s', log ++ ms.flatMap fun i =>
        copyInEvents (paramTypeGet types i) i (s.pParams i).memref) := by
  induction ns generalizing s log with
  | nil => exact absurd (fun n hn => absurd hn List.not_mem_nil) hall
  | cons n ns ih =>
    rw [copyInLoop]
    by_cases hstop : IsMemref (paramTypeGet types n) ∧ granted n = false
    · rw [if_pos hstop]
      exact ⟨[], s, List.nil_prefix, by rw [List.flatMap_nil, List.append_nil]⟩
    · rw [if_neg hstop]
      have hrest : ¬ AllGranted granted types ns := by
        intro hrest
        refine hall fun i hi hmem => ?_
        rcases List.mem_cons.mp hi with rfl | hi
        · by_contra hno
          exact hstop ⟨hmem, Bool.not_eq_true _ ▸ hno⟩
        · exact hrest i hi hmem
      obtain ⟨ms, s', hprefix, hrun⟩ := ih _ hrest
      refine ⟨n :: ms, s', List.cons_prefix_cons.mpr ⟨rfl, hprefix⟩, ?_⟩
      rw [hrun, List.flatMap_cons, List.append_assoc]
      rfl

theorem copyOutLoop_logged : copyOutLoop types ns s log = (ns.foldl (copyParamOut types) s,
    log ++ ns.flatMap fun i => copyOutEvents (paramTypeGet types i) i (s.params i)) := by
  induction ns generalizing s log with
  | nil => simp [copyOutLoop]
  | cons n ns ih =>
    rw [copyOutLoop, ih, List.foldl_cons, List.flatMap_cons, List.append_assoc]
    rfl

theorem logged_secure (hopen : W.opened = teeSuccess)
    (hall : AllGranted granted types (List.finRange 4)) :
    rpcCallCrypLogged W granted types true c cmd =
      .returned (rpcCallCryp W true types c cmd).1 (rpcCallCryp W true types c cmd).2
        (((List.finRange 4).flatMap fun i =>
            copyInEvents (paramTypeGet types i) i (c.pParams i).memref) ++
          (List.finRange 4).flatMap fun i =>
            copyOutEvents (paramTypeGet types i) i (leftParams W types cmd c i)) := by
  rw [rpcCallCrypLogged, rpcCallCryp, if_neg (not_not.mpr hopen), if_neg (not_not.mpr hopen),
    if_pos rfl, if_pos rfl, copyInLoop_granted hall, copied_in]
  dsimp only
  rw [if_pos rfl, invoke_bounced]
  dsimp only
  rw [copyOutLoop_logged, List.nil_append]

theorem logged_refines (W : World) (secMem : Bool) (c : Caller) (cmd : UInt32)
    (hall : AllGranted granted types (List.finRange 4)) :
    ∃ log, rpcCallCrypLogged W granted types secMem c cmd =
      .returned (rpcCallCryp W secMem types c cmd).1
        (rpcCallCryp W secMem types c cmd).2 log := by
  by_cases hopen : W.opened = teeSuccess
  · cases secMem with
    | true => exact ⟨_, logged_secure hopen hall⟩
    | false =>
      refine ⟨[], ?_⟩
      rw [rpcCallCrypLogged, rpcCallCryp, if_neg (not_not.mpr hopen), if_neg (not_not.mpr hopen),
        if_neg Bool.false_ne_true, if_neg Bool.false_ne_true]
  · refine ⟨[], ?_⟩
    rw [rpcCallCrypLogged, rpcCallCryp, if_pos hopen, if_pos hopen]

abbrev Live := Fin 4 → Option UInt32

/-- An access of `len` bytes stays inside the caller's memref or a live block. -/
def Inside (pParams : Params ℕ) (live : Live) (len : UInt32) : Place → Prop
  | .caller n => len ≤ (pParams n).memref.size
  | .bounce n => ∃ size ∈ live n, len ≤ size

instance (pParams : Params ℕ) (live : Live) (len : UInt32) (place : Place) :
    Decidable (Inside pParams live len place) :=
  match place with
  | .caller n => inferInstanceAs (Decidable (len ≤ (pParams n).memref.size))
  | .bounce n => inferInstanceAs (Decidable (∃ size ∈ live n, len ≤ size))

/-- A block is allocated where none is live, freed while it is live, and copied inside bounds. -/
def replayStep (pParams : Params ℕ) (live : Live) : Event → Option Live
  | .malloc n size => if live n = none then some (Function.update live n (some size)) else none
  | .free n => if live n = none then none else some (Function.update live n none)
  | .moved dst src len =>
    if Inside pParams live len dst ∧ Inside pParams live len src then some live else none

def replay (pParams : Params ℕ) (live : Live) (log : List Event) : Option Live :=
  log.foldlM (replayStep pParams) live

/-- A panic ends the application; a run that returns has freed every block it allocated. -/
def Contained (pParams : Params ℕ) : Outcome → Prop
  | .panicked log => replay pParams (fun _ => none) log ≠ none
  | .returned _ _ log => replay pParams (fun _ => none) log = some fun _ => none

variable {live : Live} {t : UInt32} {n : Fin 4} {pParams : Params ℕ} {q : Param Pointer}

theorem replay_nil (pParams : Params ℕ) (live : Live) : replay pParams live [] = some live := rfl

theorem replay_cons (pParams : Params ℕ) (live : Live) (e : Event) (log : List Event) :
    replay pParams live (e :: log) =
      (replayStep pParams live e).bind fun live => replay pParams live log :=
  List.foldlM_cons

theorem replay_append (pParams : Params ℕ) (live : Live) (log more : List Event) :
    replay pParams live (log ++ more) =
      (replay pParams live log).bind fun live => replay pParams live more :=
  List.foldlM_append

def blockSize (types : UInt32) (pParams : Params ℕ) (n : Fin 4) : Option UInt32 :=
  if IsMemref (paramTypeGet types n) then some (pParams n).memref.size else none

theorem replay_copyIn (hnone : live n = none) :
    replay pParams live (copyInEvents (paramTypeGet types n) n (pParams n).memref) =
      some (Function.update live n (blockSize types pParams n)) := by
  unfold copyInEvents blockSize
  by_cases hmem : IsMemref (paramTypeGet types n)
  · rw [if_pos hmem, if_pos hmem, replay_cons, replayStep, if_pos hnone, Option.bind_some]
    by_cases hin : paramTypeGet types n ≠ ParamType.code .memrefOutput
    · have hdst : Inside pParams (Function.update live n (some (pParams n).memref.size))
          (pParams n).memref.size (.bounce n) := by
        refine ⟨_, ?_, UInt32.le_refl _⟩
        rw [Function.update_self]
        exact Option.mem_some_self _
      have hsrc : Inside pParams (Function.update live n (some (pParams n).memref.size))
          (pParams n).memref.size (.caller n) := UInt32.le_refl _
      rw [if_pos hin, replay_cons, replayStep, if_pos ⟨hdst, hsrc⟩, Option.bind_some, replay_nil]
    · rw [if_neg hin, replay_nil]
  · rw [if_neg hmem, if_neg hmem, replay_nil, ← hnone, Function.update_eq_self]

theorem replay_copyInLoop (hnodup : ns.Nodup) (hnone : ∀ n ∈ ns, live n = none) :
    replay pParams live (ns.flatMap fun i =>
        copyInEvents (paramTypeGet types i) i (pParams i).memref) =
      some fun i => if i ∈ ns then blockSize types pParams i else live i := by
  induction ns generalizing live with
  | nil => simp [replay_nil]
  | cons n ns ih =>
    obtain ⟨hn, hrest⟩ := List.nodup_cons.mp hnodup
    have hother {i : Fin 4} (hi : i ∈ ns) : i ≠ n := fun h => hn (h ▸ hi)
    rw [List.flatMap_cons, replay_append, replay_copyIn (hnone n List.mem_cons_self),
      Option.bind_some, ih hrest, Option.some.injEq]
    · funext i
      by_cases hi : i = n
      · subst hi
        simp [hn]
      · simp [hi]
    · intro i hi
      rw [Function.update_of_ne (hother hi)]
      exact hnone i (List.mem_cons_of_mem n hi)

/-- The called application leaves no more in an output than the block holds. -/
def FitsBack (t : UInt32) (p : Param ℕ) (q : Param Pointer) : Prop :=
  IsMemrefOutput t → q.memref.size ≤ p.memref.size

instance (t : UInt32) (p : Param ℕ) (q : Param Pointer) : Decidable (FitsBack t p q) :=
  inferInstanceAs (Decidable (_ → _))

theorem replay_copyOut (hlive : live n = blockSize types pParams n) :
    replay pParams live (copyOutEvents (paramTypeGet types n) n q) =
      if FitsBack (paramTypeGet types n) (pParams n) q then some (Function.update live n none)
      else none := by
  unfold copyOutEvents
  unfold blockSize at hlive
  by_cases hmem : IsMemref (paramTypeGet types n)
  · rw [if_pos hmem] at hlive
    have hfree : replay pParams live [.free n] = some (Function.update live n none) := by
      have hne : live n ≠ none := hlive ▸ Option.some_ne_none _
      rw [replay_cons, replayStep, if_neg hne, Option.bind_some, replay_nil]
    rw [if_pos hmem, replay_append]
    by_cases hout : IsMemrefOutput (paramTypeGet types n)
    · have hinside : Inside pParams live q.memref.size (.caller n) ∧
          Inside pParams live q.memref.size (.bounce n) ↔
          FitsBack (paramTypeGet types n) (pParams n) q := by
        simp [Inside, FitsBack, hlive, hout]
      rw [if_pos (isMemrefOutput_iff.mp hout).2, replay_cons, replayStep]
      by_cases hfits : FitsBack (paramTypeGet types n) (pParams n) q
      · rw [if_pos (hinside.mpr hfits), if_pos hfits, Option.bind_some, replay_nil,
          Option.bind_some, hfree]
      · rw [if_neg fun h => hfits (hinside.mp h), if_neg hfits]
        rfl
    · have hfits : FitsBack (paramTypeGet types n) (pParams n) q := fun h => absurd h hout
      rw [if_neg fun h => hout (isMemrefOutput_iff.mpr ⟨hmem, h⟩), if_pos hfits, replay_nil,
        Option.bind_some, hfree]
  · have hfits : FitsBack (paramTypeGet types n) (pParams n) q :=
      fun h => absurd (isMemref_of_output h) hmem
    rw [if_neg hmem] at hlive
    rw [if_neg hmem, if_pos hfits, replay_nil, ← hlive, Function.update_eq_self]

theorem replay_copyOutLoop {qs : Params Pointer} (hnodup : ns.Nodup)
    (hlive : ∀ n ∈ ns, live n = blockSize types pParams n) :
    replay pParams live (ns.flatMap fun i => copyOutEvents (paramTypeGet types i) i (qs i)) =
      if ∀ n ∈ ns, FitsBack (paramTypeGet types n) (pParams n) (qs n) then
        some fun i => if i ∈ ns then none else live i
      else none := by
  induction ns generalizing live with
  | nil => simp [replay_nil]
  | cons n ns ih =>
    obtain ⟨hn, hrest⟩ := List.nodup_cons.mp hnodup
    have hother {i : Fin 4} (hi : i ∈ ns) : i ≠ n := fun h => hn (h ▸ hi)
    rw [List.flatMap_cons, replay_append, replay_copyOut (hlive n List.mem_cons_self)]
    by_cases hfits : FitsBack (paramTypeGet types n) (pParams n) (qs n)
    · rw [if_pos hfits, Option.bind_some, ih hrest]
      · simp only [List.forall_mem_cons, hfits, true_and]
        refine if_congr Iff.rfl (congrArg some ?_) rfl
        funext i
        by_cases hi : i = n
        · subst hi
          simp [hn]
        · simp [hi]
      · intro i hi
        rw [Function.update_of_ne (hother hi)]
        exact hlive i (List.mem_cons_of_mem n hi)
    · rw [if_neg hfits, if_neg fun h => hfits (h n List.mem_cons_self)]
      rfl

theorem fitsBack_iff (W : World) (types : UInt32) (c : Caller) (cmd : UInt32) :
    (∀ n ∈ List.finRange 4,
      FitsBack (paramTypeGet types n) (c.pParams n) (leftParams W types cmd c n)) ↔
    ∀ n, IsMemrefOutput (paramTypeGet types n) →
      (apartAnswer W types cmd c).sizes n ≤ (c.pParams n).memref.size := by
  constructor
  · intro hfits n hout
    rw [← leftParams_size hout]
    exact hfits n (List.mem_finRange n) hout
  · intro hfits n _ hout
    rw [leftParams_size hout]
    exact hfits n hout

theorem contained_granted (hopen : W.opened = teeSuccess)
    (hall : AllGranted granted types (List.finRange 4)) :
    Contained c.pParams (rpcCallCrypLogged W granted types true c cmd) ↔
      ∀ n, IsMemrefOutput (paramTypeGet types n) →
        (apartAnswer W types cmd c).sizes n ≤ (c.pParams n).memref.size := by
  have hlive : ∀ n ∈ List.finRange 4,
      (fun i => if i ∈ List.finRange 4 then blockSize types c.pParams i else none) n =
        blockSize types c.pParams n := fun n hn => if_pos hn
  rw [logged_secure hopen hall, ← fitsBack_iff]
  show replay c.pParams _ _ = _ ↔ _
  rw [replay_append, replay_copyInLoop (List.nodup_finRange 4) fun _ _ => rfl, Option.bind_some,
    replay_copyOutLoop (List.nodup_finRange 4) hlive]
  by_cases hfits : ∀ n ∈ List.finRange 4,
      FitsBack (paramTypeGet types n) (c.pParams n) (leftParams W types cmd c n)
  · rw [if_pos hfits]
    refine iff_of_true (congrArg some (funext fun i => ?_)) hfits
    exact if_pos (List.mem_finRange i)
  · rw [if_neg hfits]
    exact iff_of_false (Option.some_ne_none _).symm hfits

theorem contained_refused (hopen : W.opened = teeSuccess)
    (hall : ¬ AllGranted granted types (List.finRange 4)) :
    Contained c.pParams (rpcCallCrypLogged W granted types true c cmd) := by
  obtain ⟨ms, s', hprefix, hrun⟩ :=
    copyInLoop_refused [] (s := ⟨zeroParams, c.pParams, ⟨c.mem, W.heap⟩⟩) hall
  have hnodup : ms.Nodup := (List.nodup_finRange 4).sublist hprefix.sublist
  unfold rpcCallCrypLogged
  rw [if_neg (not_not.mpr hopen), if_pos rfl, hrun]
  show replay c.pParams _ _ ≠ none
  rw [List.nil_append, replay_copyInLoop hnodup fun _ _ => rfl]
  exact Option.some_ne_none _

/-- The two loops stay inside exactly when no output comes back with more than its size. -/
theorem bounce_contained_iff (W : World) (granted : Fin 4 → Bool) (types : UInt32) (secMem : Bool)
    (c : Caller) (cmd : UInt32) :
    Contained c.pParams (rpcCallCrypLogged W granted types secMem c cmd) ↔
      W.opened ≠ teeSuccess ∨ secMem = false ∨
        (∃ n, IsMemref (paramTypeGet types n) ∧ granted n = false) ∨
        ∀ n, IsMemrefOutput (paramTypeGet types n) →
          (apartAnswer W types cmd c).sizes n ≤ (c.pParams n).memref.size := by
  by_cases hopen : W.opened ≠ teeSuccess
  · refine iff_of_true ?_ (Or.inl hopen)
    unfold rpcCallCrypLogged
    rw [if_pos hopen]
    rfl
  rw [or_iff_right hopen]
  cases secMem with
  | false =>
    refine iff_of_true ?_ (Or.inl rfl)
    unfold rpcCallCrypLogged
    rw [if_neg hopen, if_neg Bool.false_ne_true]
    rfl
  | true =>
    rw [or_iff_right (by decide)]
    by_cases hall : AllGranted granted types (List.finRange 4)
    · have hnone : ¬ ∃ n, IsMemref (paramTypeGet types n) ∧ granted n = false := by
        rintro ⟨n, hmem, hno⟩
        rw [hall n (List.mem_finRange n) hmem] at hno
        exact absurd hno (by decide)
      rw [or_iff_right hnone]
      exact contained_granted (not_not.mp hopen) hall
    · refine iff_of_true (contained_refused (not_not.mp hopen) hall) (Or.inl ?_)
      by_contra hnone
      refine hall fun n _ hmem => ?_
      by_contra hno
      exact hnone ⟨n, hmem, Bool.not_eq_true _ ▸ hno⟩

def shortBufferWorld : World where
  opened := teeSuccess
  ta := fun _ _ _ _ => ⟨teeErrorShortBuffer, fun _ => ⟨0, 0⟩, fun _ => 32, []⟩
  heap := fun _ _ => 0

/-- The digest's size goes past both buffers of 16 bytes. -/
theorem short_buffer_overrun : ¬ Contained (digestCaller 16).pParams
    (rpcCallCrypLogged shortBufferWorld (fun _ => true) digestTypes true (digestCaller 16) 2) := by
  intro h
  have hsome : (replay (digestCaller 16).pParams (fun _ => none)
      [.malloc 0 16, .moved (.bounce 0) (.caller 0) 16, .malloc 1 16, .free 0,
        .moved (.caller 1) (.bounce 1) 32, .free 1]).isSome = true := by
    exact congrArg Option.isSome h
  exact absurd hsome (by decide)

end RpcBounce
