import OpteeTest.PerfCommands
import Mathlib.Data.Fin.VecNotation
import Mathlib.Logic.Function.Iterate

/-! # What the performance TAs hand to the crypto API

The pointers of `aes_perf` are not set back between rounds, and the room of the output is not
taken from the memref. -/
namespace PerfBounds

open TeeApi PerfCommands

variable {A : Arch} {σ : Type} {held : σ → ℕ} {U : Update σ held} {c : Cursor σ}
  {insz outsz unit start n : ℕ}

def covered (calls : List UpdateCall) : List ℕ := calls.flatMap fun c => List.range' c.inp c.len

def Inside (insz outsz : ℕ) (call : UpdateCall) : Prop :=
  call.inp + call.len ≤ insz ∧ call.out + call.outsz ≤ outsz

/-- A run that divides by no zero, whose slices lie inside the memrefs, and each of whose rounds
goes over the input in order, to its end unless the run fails. -/
structure InBounds (insz outsz n : ℕ) (t : Trace) : Prop where
  divides : t.res ≠ none
  slices : ∀ calls ∈ t.rounds, ∀ call ∈ calls, Inside insz outsz call
  ordered : ∀ calls ∈ t.rounds, (covered calls).IsPrefix (List.range insz)
  whole : t.res = some teeSuccess →
    t.rounds.length = n ∧ ∀ calls ∈ t.rounds, covered calls = List.range insz

theorem advance_small {ptr : ℕ} (hunit : unit < 2 ^ 31) (hsum : ptr + unit < A.word) :
    advance A ptr unit = ptr + unit := by
  have hcast : (ptr + unit : ℤ) % A.word = ((ptr + unit) % A.word : ℕ) := by push_cast; rfl
  rw [advance, toInt_of_lt hunit, hcast, Nat.mod_eq_of_lt hsum, Int.toNat_natCast]

theorem toInt_of_ge (hunit : 2 ^ 31 ≤ unit) (hlt : unit < 2 ^ 32) :
    toInt unit = unit - 2 ^ 32 := by
  unfold toInt
  rw [Int.bmod_def, Int.emod_eq_of_lt (by omega) (by omega), if_neg (by omega)]
  rfl

/-- A negative unit leads out of the memref where pointers are wider. -/
theorem advance_zero (A : Arch) (hunit : unit < 2 ^ 32) :
    advance A 0 unit = unit ∨ 2 ^ 32 ≤ advance A 0 unit := by
  by_cases hsmall : unit < 2 ^ 31
  · have hword := A.word_ge
    refine Or.inl ?_
    rw [advance_small hsmall (by omega), Nat.zero_add]
  · rw [advance, toInt_of_ge (by omega) hunit]
    cases A with
    | arm32 =>
      have hword : ((Arch.arm32.word : ℕ) : ℤ) = 2 ^ 32 := rfl
      rw [hword]
      omega
    | arm64 =>
      have hword : ((Arch.arm64.word : ℕ) : ℤ) = 2 ^ 64 := rfl
      rw [hword]
      omega

def pos (A : Arch) (unit k : ℕ) : ℕ := (advance A · unit)^[k] 0

theorem pos_zero (A : Arch) (unit : ℕ) : pos A unit 0 = 0 := rfl

theorem pos_succ (A : Arch) (unit k : ℕ) : pos A unit (k + 1) = advance A (pos A unit k) unit :=
  Function.iterate_succ_apply' ..

theorem pos_small (hunit : unit < 2 ^ 31) {k : ℕ} (hk : k * unit < 2 ^ 32) :
    pos A unit k = k * unit := by
  induction k with
  | zero => rw [pos_zero, Nat.zero_mul]
  | succ k ih =>
    rw [Nat.add_one_mul] at hk ⊢
    have hbefore : pos A unit k = k * unit := ih ((Nat.le_add_right _ _).trans_lt hk)
    rw [pos_succ, hbefore]
    exact advance_small hunit (hk.trans_le A.word_ge)

theorem pos_cases (A : Arch) (hunit : unit < 2 ^ 32) {k : ℕ} (hk : k * unit < 2 ^ 32) :
    pos A unit k = k * unit ∨ 2 ^ 32 ≤ pos A unit k := by
  by_cases hsmall : unit < 2 ^ 31
  · exact Or.inl (pos_small hsmall hk)
  have hle : k < 2 := by
    by_contra hge
    have hmul := Nat.mul_le_mul_right unit (show 2 ≤ k by omega)
    omega
  cases k with
  | zero =>
    rw [Nat.zero_mul, pos_zero]
    exact Or.inl rfl
  | succ k =>
    obtain rfl : k = 0 := by omega
    rw [pos_succ, pos_zero, Nat.zero_add, Nat.one_mul]
    exact advance_zero A hunit

/-- Every call after the first finds room for its unit behind those before it, and for its part
of what the operation has held back. -/
def Room (insz outsz unit start : ℕ) : Prop :=
  ∀ k, 0 < k → k * unit < insz → (k + 1) * unit + start / k ≤ outsz

structure Reached (held : σ → ℕ) (insz outsz unit start k : ℕ) (c : Cursor σ) : Prop where
  inp : k * unit < insz → c.inp = k * unit
  out : k * unit < insz → c.out = k * unit
  room : c.outsz ≤ outsz
  given : k * c.outsz + held c.op ≤ start + k * unit

variable {k : ℕ}

theorem Reached.fits (hc : Reached held insz outsz unit start k c)
    (hroom : Room insz outsz unit start) (hk : k * unit < insz) : c.out + c.outsz ≤ outsz := by
  rw [hc.out hk]
  rcases Nat.eq_zero_or_pos k with rfl | hpos
  · rw [Nat.zero_mul, Nat.zero_add]
    exact hc.room
  · have hgiven : c.outsz * k ≤ start + k * unit := by
      rw [Nat.mul_comm]
      exact (Nat.le_add_right _ _).trans hc.given
    have hle : c.outsz ≤ start / k + unit := by
      rw [← Nat.add_mul_div_left _ _ hpos]
      exact (Nat.le_div_iff_mul_le hpos).mpr hgiven
    have hnext := hroom k hpos hk
    rw [Nat.add_one_mul] at hnext
    omega

theorem Room.unit_lt (hroom : Room insz outsz unit start) (houtsz : outsz < 2 ^ 32)
    (hpos : 0 < k) (hk : k * unit < insz) : unit < 2 ^ 31 := by
  have hnext := (Nat.le_add_right _ _).trans (hroom k hpos hk)
  have hmul := Nat.mul_le_mul_right unit (show 2 ≤ k + 1 by omega)
  omega

theorem Reached.update (hc : Reached held insz outsz unit start k c)
    (hroom : Room insz outsz unit start) (houtsz : outsz < 2 ^ 32) (hinsz : insz < 2 ^ 32)
    (hok : (update U unit c).1 = teeSuccess) :
    Reached held insz outsz unit start (k + 1) { (update U unit c).2 with
      inp := advance A (update U unit c).2.inp unit
      out := advance A (update U unit c).2.out unit } := by
  have hword := A.word_ge
  have hptr (ptr : ℕ) (hk : (k + 1) * unit < insz) (hptr : k * unit < insz → ptr = k * unit) :
      advance A ptr unit = (k + 1) * unit := by
    have hunit := hroom.unit_lt houtsz (Nat.succ_pos k) hk
    rw [Nat.add_one_mul] at hk ⊢
    rw [hptr (by omega), advance_small hunit (by omega)]
  have hle := U.room c.op unit c.outsz hok
  have hgiven := U.given c.op unit c.outsz hok
  refine ⟨fun hk => hptr _ hk hc.inp, fun hk => hptr _ hk hc.out, hle.trans hc.room, ?_⟩
  have hmul := Nat.mul_le_mul_left k hle
  have hbefore := hc.given
  show (k + 1) * (U.run c.op unit c.outsz).2.1 + held (U.run c.op unit c.outsz).2.2 ≤
    start + (k + 1) * unit
  rw [Nat.add_one_mul, Nat.add_one_mul]
  omega

theorem covered_cons (call : UpdateCall) (calls : List UpdateCall) :
    covered (call :: calls) = List.range' call.inp call.len ++ covered calls :=
  List.flatMap_cons

theorem covered_append (calls more : List UpdateCall) :
    covered (calls ++ more) = covered calls ++ covered more :=
  List.flatMap_append

theorem covered_single (call : UpdateCall) : covered [call] = List.range' call.inp call.len := by
  rw [covered_cons]
  exact List.append_nil _

theorem Reached.inside (hc : Reached held insz outsz unit start k c)
    (hroom : Room insz outsz unit start) {len : ℕ} (hlen : 0 < len)
    (hk : k * unit + len ≤ insz) : Inside insz outsz (c.call len) := by
  refine ⟨?_, hc.fits hroom (by omega)⟩
  show c.inp + len ≤ insz
  rwa [hc.inp (by omega)]

theorem unitLoop_fits (A : Arch) (U : Update σ held) (hunit : 0 < unit)
    (hroom : Room insz outsz unit start) (houtsz : outsz < 2 ^ 32) (hinsz : insz < 2 ^ 32)
    {count : ℕ} (hcount : (k + count) * unit ≤ insz)
    (hc : Reached held insz outsz unit start k c) :
    ∃ res calls last, unitLoop A U unit count c = (res, calls, last) ∧
      (∀ call ∈ calls, Inside insz outsz call) ∧
      (covered calls).IsPrefix (List.range' (k * unit) (count * unit)) ∧
      (res = teeSuccess → covered calls = List.range' (k * unit) (count * unit) ∧
        Reached held insz outsz unit start (k + count) last) := by
  induction count generalizing k c with
  | zero =>
    refine ⟨_, _, _, rfl, fun call hcall => absurd hcall List.not_mem_nil, List.nil_prefix, ?_⟩
    intro _
    rw [Nat.zero_mul, Nat.add_zero]
    exact ⟨rfl, hc⟩
  | succ count ih =>
    have hnext : (k + 1 + count) * unit ≤ insz := by
      rwa [Nat.add_right_comm, Nat.add_assoc]
    have hend : k * unit + unit ≤ insz := by
      rw [← Nat.add_one_mul]
      exact (Nat.mul_le_mul_right unit (Nat.le_add_right (k + 1) count)).trans hnext
    have hsplit : List.range' (k * unit) ((count + 1) * unit) =
        List.range' (k * unit) unit ++ List.range' ((k + 1) * unit) (count * unit) := by
      rw [Nat.add_one_mul, Nat.add_one_mul, Nat.add_comm (count * unit),
        List.range'_append_1]
    have hcall := hc.inside hroom hunit hend
    have hinp : c.inp = k * unit := hc.inp (by omega)
    rw [unitLoop, hsplit]
    dsimp only
    by_cases hres : (update U unit c).1 = teeSuccess
    · rw [if_neg (not_not.mpr hres)]
      have hstep := hc.update (A := A) hroom houtsz hinsz hres
      obtain ⟨res, calls, last, hrun, hinside, hprefix, hok⟩ := ih hnext hstep
      rw [hrun]
      refine ⟨_, _, _, rfl, ?_, ?_, ?_⟩
      · intro call hmem
        rcases List.mem_cons.mp hmem with rfl | hmem
        · exact hcall
        · exact hinside call hmem
      · rw [covered_cons, Cursor.call, hinp]
        exact (List.prefix_append_right_inj _).mpr hprefix
      · intro hsuccess
        obtain ⟨hcovered, hlast⟩ := hok hsuccess
        rw [covered_cons, Cursor.call, hinp, hcovered, ← Nat.add_assoc, Nat.add_right_comm]
        exact ⟨rfl, hlast⟩
    · rw [if_pos hres]
      refine ⟨_, _, _, rfl, ?_, ?_, fun hsuccess => absurd hsuccess hres⟩
      · intro call hmem
        rw [List.mem_singleton.mp hmem]
        exact hcall
      · rw [covered_single, Cursor.call, hinp]
        exact List.prefix_append _ _

/-- A round that starts at the buffers covers the input in order. -/
theorem round_fits (A : Arch) (U : Update σ held) (hunit : 0 < unit)
    (hroom : Room insz outsz unit start) (houtsz : outsz < 2 ^ 32) (hinsz : insz < 2 ^ 32)
    (hc : Reached held insz outsz unit start 0 c) :
    ∃ res calls last, runRound A U insz unit c = some (res, calls, last) ∧
      (∀ call ∈ calls, Inside insz outsz call) ∧
      (covered calls).IsPrefix (List.range insz) ∧
      (res = teeSuccess → covered calls = List.range insz) := by
  have hunits : (0 + insz / unit) * unit ≤ insz := by
    rw [Nat.zero_add]
    exact Nat.div_mul_le_self insz unit
  have hsplit : List.range insz =
      List.range' 0 (insz / unit * unit) ++ List.range' (insz / unit * unit) (insz % unit) := by
    have hjoin := List.range'_append_1 (s := 0) (m := insz / unit * unit) (n := insz % unit)
    rw [Nat.zero_add, Nat.mul_comm (insz / unit), Nat.div_add_mod] at hjoin
    rw [List.range_eq_range', ← hjoin, Nat.mul_comm]
  obtain ⟨res, calls, last, hrun, hinside, hprefix, hok⟩ :=
    unitLoop_fits A U hunit hroom houtsz hinsz hunits hc
  rw [Nat.zero_mul] at hprefix hok
  rw [Nat.zero_add] at hok
  rw [runRound, if_neg hunit.ne', hrun, hsplit]
  dsimp only
  by_cases hres : res ≠ teeSuccess
  · rw [if_pos hres]
    exact ⟨_, _, _, rfl, hinside, hprefix.trans (List.prefix_append _ _),
      fun hsuccess => absurd hsuccess hres⟩
  rw [if_neg hres]
  obtain ⟨hcovered, hlast⟩ := hok (not_not.mp hres)
  by_cases htail : insz % unit ≠ 0
  · have hend : insz / unit * unit + insz % unit = insz := by
      rw [Nat.mul_comm]
      exact Nat.div_add_mod insz unit
    have hcall := hlast.inside hroom (Nat.pos_of_ne_zero htail) hend.le
    have hall : covered (calls ++ [last.call (insz % unit)]) =
        List.range' 0 (insz / unit * unit) ++
          List.range' (insz / unit * unit) (insz % unit) := by
      rw [covered_append, covered_single, hcovered, Cursor.call, hlast.inp (by omega)]
    rw [if_pos htail]
    refine ⟨_, _, _, rfl, ?_, ?_, fun _ => hall⟩
    · intro call hmem
      rcases List.mem_append.mp hmem with hmem | hmem
      · exact hinside call hmem
      · rw [List.mem_singleton.mp hmem]
        exact hcall
    · exact ⟨[], (List.append_nil _).trans hall⟩
  · rw [if_neg htail]
    have hall : covered calls = List.range' 0 (insz / unit * unit) ++
        List.range' (insz / unit * unit) (insz % unit) := by
      rw [hcovered, not_not.mp htail]
      exact (List.append_nil _).symm
    exact ⟨_, _, _, rfl, hinside, ⟨[], (List.append_nil _).trans hall⟩, fun _ => hall⟩

structure AtStart (outsz : ℕ) (c : Cursor σ) : Prop where
  inp : c.inp = 0
  out : c.out = 0
  room : c.outsz ≤ outsz

theorem AtStart.reached (hc : AtStart outsz c) (held : σ → ℕ) (insz unit : ℕ) :
    Reached held insz outsz unit (held c.op) 0 c := by
  refine ⟨?_, ?_, hc.room, ?_⟩
  · rw [Nat.zero_mul]
    exact fun _ => hc.inp
  · rw [Nat.zero_mul]
    exact fun _ => hc.out
  · rw [Nat.zero_mul, Nat.zero_mul, Nat.zero_add, Nat.add_zero]

theorem AtStart.update (hc : AtStart outsz c) {len : ℕ}
    (hok : (update U len c).1 = teeSuccess) : AtStart outsz (update U len c).2 :=
  ⟨hc.inp, hc.out, (U.room c.op len c.outsz hok).trans hc.room⟩

theorem round_small (A : Arch) (U : Update σ held) (hlt : insz < unit) (hc : AtStart outsz c)
    {res : TeeResult} {calls : List UpdateCall} {last : Cursor σ}
    (hrun : runRound A U insz unit c = some (res, calls, last)) (hres : res = teeSuccess) :
    AtStart outsz last := by
  rw [runRound, if_neg (by omega), Nat.div_eq_of_lt hlt, Nat.mod_eq_of_lt hlt] at hrun
  dsimp only [unitLoop] at hrun
  rw [if_neg (not_not.mpr rfl)] at hrun
  by_cases htail : insz ≠ 0
  · rw [if_pos htail, Option.some.injEq, Prod.mk.injEq, Prod.mk.injEq] at hrun
    obtain ⟨hfirst, -, hlast⟩ := hrun
    rw [← hlast]
    exact hc.update (hfirst.trans hres)
  · rw [if_neg htail, Option.some.injEq, Prod.mk.injEq, Prod.mk.injEq] at hrun
    rwa [← hrun.2.2]

theorem roundLoop_zero (A : Arch) (U : Update σ held) (insz outsz unit : ℕ) (c : Cursor σ) :
    InBounds insz outsz 0 (roundLoop A U insz unit 0 c) :=
  ⟨Option.some_ne_none _, fun _ h => absurd h List.not_mem_nil,
    fun _ h => absurd h List.not_mem_nil, fun _ => ⟨rfl, fun _ h => absurd h List.not_mem_nil⟩⟩

/-- A round that fits, and rounds after it that do when it succeeds. -/
theorem roundLoop_succ (A : Arch) (U : Update σ held) (hunit : 0 < unit)
    (hroom : Room insz outsz unit (held c.op)) (houtsz : outsz < 2 ^ 32) (hinsz : insz < 2 ^ 32)
    (hc : AtStart outsz c)
    (hrest : ∀ res calls last, runRound A U insz unit c = some (res, calls, last) →
      res = teeSuccess → InBounds insz outsz n (roundLoop A U insz unit n last)) :
    InBounds insz outsz (n + 1) (roundLoop A U insz unit (n + 1) c) := by
  obtain ⟨res, calls, last, hrun, hinside, hprefix, hok⟩ :=
    round_fits A U hunit hroom houtsz hinsz (hc.reached held insz unit)
  have hfirst {P : List UpdateCall → Prop} {rounds : List (List UpdateCall)} (hcalls : P calls)
      (hrounds : ∀ more ∈ rounds, P more) : ∀ more ∈ calls :: rounds, P more := by
    intro more hmore
    rcases List.mem_cons.mp hmore with rfl | hmore
    · exact hcalls
    · exact hrounds more hmore
  rw [roundLoop, hrun]
  dsimp only
  by_cases hres : res = teeSuccess
  · rw [if_neg (not_not.mpr hres)]
    obtain ⟨hdivides, hslices, hordered, hwhole⟩ := hrest res calls last hrun hres
    refine ⟨hdivides, hfirst hinside hslices, hfirst hprefix hordered, ?_⟩
    intro hsuccess
    obtain ⟨hlen, hcovered⟩ := hwhole hsuccess
    exact ⟨by rw [List.length_cons, hlen], hfirst (hok hres) hcovered⟩
  · rw [if_pos hres]
    have hnone {P : List UpdateCall → Prop} : ∀ more ∈ [], P more :=
      fun _ h => absurd h List.not_mem_nil
    exact ⟨Option.some_ne_none _, hfirst hinside hnone, hfirst hprefix hnone,
      fun h => absurd (Option.some.inj h) hres⟩

theorem roundLoop_small (A : Arch) (U : Update σ held) (hlt : insz < unit)
    (houtsz : outsz < 2 ^ 32) (hinsz : insz < 2 ^ 32) (hc : AtStart outsz c) :
    InBounds insz outsz n (roundLoop A U insz unit n c) := by
  induction n generalizing c with
  | zero => exact roundLoop_zero A U insz outsz unit c
  | succ n ih =>
    have hroom : Room insz outsz unit (held c.op) := by
      intro k hpos hk
      have hle := Nat.le_mul_of_pos_left unit hpos
      omega
    refine roundLoop_succ A U (by omega) hroom houtsz hinsz hc ?_
    intro res calls last hrun hres
    exact ih (round_small A U hlt hc hrun hres)

theorem roundLoop_one (A : Arch) (U : Update σ held) (hunit : 0 < unit)
    (hroom : Room insz outsz unit (held c.op)) (houtsz : outsz < 2 ^ 32) (hinsz : insz < 2 ^ 32)
    (hc : AtStart outsz c) : InBounds insz outsz 1 (roundLoop A U insz unit 1 c) :=
  roundLoop_succ A U hunit hroom houtsz hinsz hc fun _ _ last _ _ =>
    roundLoop_zero A U insz outsz unit last

def afterUnits (A : Arch) (U : Update σ held) (unit : ℕ) : ℕ → Cursor σ → Cursor σ
  | 0, c => c
  | k + 1, c =>
    let next := (update U unit c).2
    afterUnits A U unit k
      { next with inp := advance A next.inp unit, out := advance A next.out unit }

theorem afterUnits_succ (A : Arch) (U : Update σ held) (unit k : ℕ) (c : Cursor σ) :
    afterUnits A U unit (k + 1) c =
      { (update U unit (afterUnits A U unit k c)).2 with
        inp := advance A (afterUnits A U unit k c).inp unit
        out := advance A (afterUnits A U unit k c).out unit } := by
  induction k generalizing c with
  | zero => rfl
  | succ k ih => exact ih _

theorem afterUnits_inp (A : Arch) (U : Update σ held) (unit k : ℕ) (hc : c.inp = 0) :
    (afterUnits A U unit k c).inp = pos A unit k := by
  induction k with
  | zero => rwa [pos_zero]
  | succ k ih => rw [afterUnits_succ, pos_succ, ← ih]

theorem afterUnits_out (A : Arch) (U : Update σ held) (unit k : ℕ) (hc : c.out = 0) :
    (afterUnits A U unit k c).out = pos A unit k := by
  induction k with
  | zero => rwa [pos_zero]
  | succ k ih => rw [afterUnits_succ, pos_succ, ← ih]

def Update.Takes (U : Update σ held) : Prop := ∀ op len outsz, (U.run op len outsz).1 = teeSuccess

theorem unitLoop_takes (A : Arch) (hU : Update.Takes U) (unit count : ℕ) (c : Cursor σ) :
    unitLoop A U unit count c = (teeSuccess,
      (List.range count).map fun k => (afterUnits A U unit k c).call unit,
      afterUnits A U unit count c) := by
  induction count generalizing c with
  | zero => rfl
  | succ count ih =>
    have hok : (update U unit c).1 = teeSuccess := hU _ _ _
    rw [unitLoop, List.range_succ_eq_map, List.map_cons, List.map_map]
    dsimp only
    rw [if_neg (not_not.mpr hok), ih]
    rfl

theorem round_takes (A : Arch) (hU : Update.Takes U) (insz : ℕ) (hunit : 0 < unit)
    (c : Cursor σ) :
    ∃ calls last, runRound A U insz unit c = some (teeSuccess, calls, last) ∧
      last.inp = (afterUnits A U unit (insz / unit) c).inp ∧
      (unit ≤ insz → c.call unit ∈ calls) ∧
      ∀ k, k * unit < insz → ∃ len, (afterUnits A U unit k c).call len ∈ calls := by
  have hmem {k : ℕ} (hk : k < insz / unit) : (afterUnits A U unit k c).call unit ∈
      (List.range (insz / unit)).map fun k => (afterUnits A U unit k c).call unit :=
    List.mem_map.mpr ⟨k, List.mem_range.mpr hk, rfl⟩
  have hlast {k : ℕ} (hk : k * unit < insz) (hge : ¬ k < insz / unit) :
      k = insz / unit ∧ insz % unit ≠ 0 := by
    have hle : k ≤ insz / unit := (Nat.le_div_iff_mul_le hunit).mpr hk.le
    obtain rfl : k = insz / unit := by omega
    have hmod := Nat.div_add_mod insz unit
    rw [Nat.mul_comm] at hmod
    omega
  rw [runRound, if_neg hunit.ne', unitLoop_takes A hU]
  dsimp only
  rw [if_neg (not_not.mpr rfl)]
  by_cases htail : insz % unit ≠ 0
  · rw [if_pos htail]
    have hok : (update U (insz % unit) (afterUnits A U unit (insz / unit) c)).1 = teeSuccess :=
      hU _ _ _
    rw [hok]
    refine ⟨_, _, rfl, rfl, ?_, ?_⟩
    · intro hle
      exact List.mem_append_left _ (hmem (k := 0) (Nat.div_pos hle hunit))
    · intro k hk
      by_cases hlt : k < insz / unit
      · exact ⟨unit, List.mem_append_left _ (hmem hlt)⟩
      · obtain ⟨rfl, -⟩ := hlast hk hlt
        exact ⟨insz % unit, List.mem_append_right _ (List.mem_singleton_self _)⟩
  · rw [if_neg htail]
    refine ⟨_, _, rfl, rfl, ?_, ?_⟩
    · intro hle
      exact hmem (k := 0) (Nat.div_pos hle hunit)
    · intro k hk
      by_cases hlt : k < insz / unit
      · exact ⟨unit, hmem hlt⟩
      · exact absurd (hlast hk hlt).2 htail

def giveAtMost (most : ℕ) : Update ℕ id where
  run op len outsz :=
    (teeSuccess, min most (min outsz (op + len)), op + len - min most (min outsz (op + len)))
  room op len outsz _ := (Nat.min_le_right _ _).trans (Nat.min_le_left _ _)
  given op len outsz _ := by
    have hle : min most (min outsz (op + len)) ≤ op + len :=
      (Nat.min_le_right _ _).trans (Nat.min_le_right _ _)
    exact (Nat.add_sub_cancel' hle).le

theorem giveAtMost_takes (most : ℕ) : Update.Takes (giveAtMost most) := fun _ _ _ => rfl

theorem giveAtMost_outsz (A : Arch) {most : ℕ} {c : Cursor ℕ} (hroom : most ≤ c.outsz)
    (hk : most ≤ unit + c.op / k) {i : ℕ} (hi : i ≤ k) :
    (afterUnits A (giveAtMost most) unit i c).outsz = (if i = 0 then c.outsz else most) ∧
      (afterUnits A (giveAtMost most) unit i c).op + i * most = c.op + i * unit := by
  induction i with
  | zero =>
    rw [if_pos rfl, Nat.zero_mul, Nat.zero_mul]
    exact ⟨rfl, rfl⟩
  | succ i ih =>
    obtain ⟨houtsz, hop⟩ := ih (by omega)
    have hshare : (i + 1) * (c.op / k) ≤ c.op :=
      (Nat.mul_le_mul_right _ hi).trans (Nat.mul_div_le c.op k)
    have hmost := Nat.mul_le_mul_left (i + 1) hk
    rw [Nat.mul_add, Nat.add_one_mul, Nat.add_one_mul] at hmost
    have hhas : most ≤ (afterUnits A (giveAtMost most) unit i c).op + unit := by omega
    have hfits : most ≤ (afterUnits A (giveAtMost most) unit i c).outsz := by
      rw [houtsz]
      by_cases hzero : i = 0
      · rwa [if_pos hzero]
      · rw [if_neg hzero]
    have hgives : min most (min (afterUnits A (giveAtMost most) unit i c).outsz
        ((afterUnits A (giveAtMost most) unit i c).op + unit)) = most :=
      Nat.min_eq_left (Nat.le_min.mpr ⟨hfits, hhas⟩)
    rw [afterUnits_succ, if_neg (Nat.succ_ne_zero i)]
    refine ⟨hgives, ?_⟩
    show (afterUnits A (giveAtMost most) unit i c).op + unit -
      min most (min (afterUnits A (giveAtMost most) unit i c).outsz
        ((afterUnits A (giveAtMost most) unit i c).op + unit)) + (i + 1) * most =
      c.op + (i + 1) * unit
    rw [hgives, Nat.add_one_mul, Nat.add_one_mul]
    omega

def machineOf (U : Update ℕ id) : PerfCommands.Machine ℕ :=
  ⟨id, U, U, false, false, teeSuccess, teeSuccess, teeSuccess⟩

theorem aesCmdProcess_machineOf (A : Arch) (U : Update ℕ id) (algo : UInt32) (params : TeeParams)
    (useSdp : Bool) (op : ℕ) :
    aesCmdProcess A (machineOf U) algo aesParamTypes params useSdp op =
      roundLoop A U (params 0).memref.size.toNat (unitSize params) (params 2).value.a.toNat
        ⟨op, 0, 0, (params 1).memref.size.toNat⟩ := by
  have hflush : (machineOf U).preFlush useSdp = teeSuccess := by
    simp [Machine.preFlush, machineOf]
  have hupdate : (machineOf U).doUpdate algo = U := by
    unfold Machine.doUpdate
    exact ite_self U
  have hout : (machineOf U).secureOut = false := rfl
  unfold aesCmdProcess
  rw [if_neg (not_not.mpr rfl), hflush, if_neg (not_not.mpr rfl), hupdate]
  dsimp only
  rw [if_neg (by simp [hout])]
  rfl

theorem unitSize_lt (params : TeeParams) : unitSize params < 2 ^ 32 := by
  unfold unitSize
  by_cases hunit : (params 2).value.b = 0
  · rw [if_pos hunit]
    exact (params 0).memref.size.toNat_lt
  · rw [if_neg hunit]
    exact (params 2).value.b.toNat_lt

theorem second_round_outside (A : Arch) (hU : Update.Takes U) (hunit : 0 < unit)
    (hlt : unit < 2 ^ 32) (hinsz : insz < 2 ^ 32) (hle : unit ≤ insz) (hc : c.inp = 0)
    (hn : 2 ≤ n) : ¬ InBounds insz outsz n (roundLoop A U insz unit n c) := by
  intro hbounds
  obtain ⟨n, rfl⟩ := Nat.exists_eq_add_of_le' hn
  obtain ⟨calls, last, hrun, hinp, -, -⟩ := round_takes A hU insz hunit c
  obtain ⟨calls', last', hrun', -, hfirst, -⟩ := round_takes A hU insz hunit last
  have htrace : roundLoop A U insz unit (n + 2) c =
      ⟨(roundLoop A U insz unit n last').res,
        calls :: calls' :: (roundLoop A U insz unit n last').rounds⟩ := by
    rw [roundLoop, hrun]
    dsimp only
    rw [if_neg (not_not.mpr rfl), roundLoop, hrun']
    dsimp only
    rw [if_neg (not_not.mpr rfl)]
  rw [htrace] at hbounds
  have hslice := (hbounds.slices calls' (by simp) (last.call unit) (hfirst hle)).1
  have hpos : last.inp = pos A unit (insz / unit) := hinp.trans (afterUnits_inp A U unit _ hc)
  have hslice' : pos A unit (insz / unit) + unit ≤ insz := by
    rw [← hpos]
    exact hslice
  have hend := Nat.lt_div_mul_add hunit (a := insz)
  rcases pos_cases A hlt ((Nat.div_mul_le_self insz unit).trans_lt hinsz) with hpos | hpos
  · omega
  · omega

/-- The operation that gives out as much as it may shows where the room ends. -/
theorem room_of_inBounds (A : Arch) (hunit : 0 < unit) (hlt : unit < 2 ^ 32)
    (hinsz : insz < 2 ^ 32) (hbounds : ∀ most, InBounds insz outsz 1
      (roundLoop A (giveAtMost most) insz unit 1 ⟨start, 0, 0, outsz⟩)) :
    Room insz outsz unit start := by
  intro k hk hunits
  obtain ⟨most, hmost⟩ : ∃ most, most = min outsz (unit + start / k) := ⟨_, rfl⟩
  have hle : most ≤ outsz := hmost ▸ Nat.min_le_left _ _
  obtain ⟨calls, last, hrun, -, -, hcalls⟩ := round_takes A (giveAtMost_takes most)
    insz hunit ⟨start, 0, 0, outsz⟩
  have htrace : roundLoop A (giveAtMost most) insz unit 1 ⟨start, 0, 0, outsz⟩ =
      ⟨some teeSuccess, [calls]⟩ := by
    rw [roundLoop, hrun]
    rfl
  obtain ⟨len, hmem⟩ := hcalls k hunits
  have hslices := (hbounds most).slices
  rw [htrace] at hslices
  obtain ⟨hinp, hout⟩ := hslices calls (List.mem_singleton_self _) _ hmem
  have hpos : pos A unit k + len ≤ insz := by
    rw [← afterUnits_inp A (giveAtMost most) unit k (c := ⟨start, 0, 0, outsz⟩) rfl]
    exact hinp
  have hannounced : pos A unit k + most ≤ outsz := by
    have hgiven := (giveAtMost_outsz A (c := ⟨start, 0, 0, outsz⟩) hle
      (hmost ▸ Nat.min_le_right _ _) (le_refl k)).1
    rw [if_neg hk.ne'] at hgiven
    change (afterUnits A (giveAtMost most) unit k ⟨start, 0, 0, outsz⟩).out +
      (afterUnits A (giveAtMost most) unit k ⟨start, 0, 0, outsz⟩).outsz ≤ outsz at hout
    rwa [afterUnits_out A (giveAtMost most) unit k rfl, hgiven] at hout
  have hmul := Nat.mul_le_mul_right unit hk
  rw [Nat.one_mul] at hmul
  rw [Nat.add_one_mul]
  rcases pos_cases A hlt (hunits.trans hinsz) with hexact | hfar
  · rw [hexact] at hannounced
    rcases Nat.le_total outsz (unit + start / k) with hmin | hmin
    · rw [Nat.min_eq_left hmin] at hmost
      omega
    · rw [Nat.min_eq_right hmin] at hmost
      omega
  · omega

def AesInBounds (A : Arch) (algo paramTypes : UInt32) (params : TeeParams) (useSdp : Bool)
    (start : ℕ) : Prop :=
  ∀ (σ : Type) (E : PerfCommands.Machine σ) (op : σ), E.held op = start →
    InBounds (params 0).memref.size.toNat (params 1).memref.size.toNat (params 2).value.a.toNat
      (aesCmdProcess A E algo paramTypes params useSdp op)

/-- No round at all, or a unit that is larger than the input, or one round with room for the
output of every unit. -/
def AesFits (paramTypes : UInt32) (params : TeeParams) (start : ℕ) : Prop :=
  paramTypes ≠ aesParamTypes ∨ (params 2).value.a = 0 ∨ unitSize params ≠ 0 ∧
    ((params 0).memref.size.toNat < unitSize params ∨ (params 2).value.a = 1 ∧
      Room (params 0).memref.size.toNat (params 1).memref.size.toNat (unitSize params) start)

theorem inBounds_nil {res : TeeResult} (hres : res ≠ teeSuccess) :
    InBounds insz outsz n ⟨some res, []⟩ :=
  ⟨Option.some_ne_none _, fun _ h => absurd h List.not_mem_nil,
    fun _ h => absurd h List.not_mem_nil, fun h => absurd (Option.some.inj h) hres⟩

theorem roundLoop_fits (A : Arch) {params : TeeParams} {U : Update σ held} {op : σ}
    (hfits : (params 2).value.a = 0 ∨ unitSize params ≠ 0 ∧
      ((params 0).memref.size.toNat < unitSize params ∨ (params 2).value.a = 1 ∧
        Room (params 0).memref.size.toNat (params 1).memref.size.toNat (unitSize params)
          (held op))) :
    InBounds (params 0).memref.size.toNat (params 1).memref.size.toNat (params 2).value.a.toNat
      (roundLoop A U (params 0).memref.size.toNat (unitSize params) (params 2).value.a.toNat
        ⟨op, 0, 0, (params 1).memref.size.toNat⟩) := by
  have hinsz := (params 0).memref.size.toNat_lt
  have houtsz := (params 1).memref.size.toNat_lt
  have hstart : AtStart (params 1).memref.size.toNat
      (⟨op, 0, 0, (params 1).memref.size.toNat⟩ : Cursor σ) := ⟨rfl, rfl, le_rfl⟩
  rcases hfits with hzero | ⟨hunit, hsmall | ⟨hone, hroom⟩⟩
  · rw [hzero]
    exact roundLoop_zero A U _ _ _ _
  · exact roundLoop_small A U hsmall houtsz hinsz hstart
  · rw [hone]
    exact roundLoop_one A U (Nat.pos_of_ne_zero hunit) hroom houtsz hinsz hstart

theorem aesInBounds_of_fits (A : Arch) (algo : UInt32) {paramTypes : UInt32} {params : TeeParams}
    (useSdp : Bool) {start : ℕ} (hfits : AesFits paramTypes params start) :
    AesInBounds A algo paramTypes params useSdp start := by
  rintro σ E op rfl
  unfold aesCmdProcess
  by_cases htypes : paramTypes ≠ aesParamTypes
  · rw [if_pos htypes]
    exact inBounds_nil (by decide)
  rw [if_neg htypes]
  by_cases hflush : E.preFlush useSdp ≠ teeSuccess
  · rw [if_pos hflush]
    exact inBounds_nil hflush
  rw [if_neg hflush]
  have hloop := roundLoop_fits A (U := E.doUpdate algo) (hfits.resolve_left htypes)
  dsimp only
  by_cases hpost : (roundLoop A (E.doUpdate algo) (params 0).memref.size.toNat (unitSize params)
      (params 2).value.a.toNat ⟨op, 0, 0, (params 1).memref.size.toNat⟩).res = some teeSuccess ∧
      useSdp ∧ E.secureOut ∧ E.postFlushOut ≠ teeSuccess
  · rw [if_pos hpost]
    exact ⟨Option.some_ne_none _, hloop.slices, hloop.ordered,
      fun h => absurd (Option.some.inj h) hpost.2.2.2⟩
  · rw [if_neg hpost]
    exact hloop

theorem fits_of_aesInBounds {A : Arch} {algo paramTypes : UInt32} {params : TeeParams}
    {useSdp : Bool} {start : ℕ} (hbounds : AesInBounds A algo paramTypes params useSdp start) :
    AesFits paramTypes params start := by
  by_cases htypes : paramTypes ≠ aesParamTypes
  · exact Or.inl htypes
  obtain rfl := not_not.mp htypes
  by_cases hzero : (params 2).value.a = 0
  · exact Or.inr (Or.inl hzero)
  have hloop (U : Update ℕ id) := hbounds ℕ (machineOf U) start rfl
  simp only [aesCmdProcess_machineOf] at hloop
  obtain ⟨n, hn⟩ : ∃ n, (params 2).value.a.toNat = n + 1 := by
    apply Nat.exists_eq_succ_of_ne_zero
    intro h
    exact hzero (UInt32.toNat_inj.mp h)
  have hunit : unitSize params ≠ 0 := by
    intro h
    have hdivides := (hloop (giveAtMost 0)).divides
    rw [h, hn, roundLoop, runRound, if_pos rfl] at hdivides
    exact hdivides rfl
  have hpos := Nat.pos_of_ne_zero hunit
  have hinsz := (params 0).memref.size.toNat_lt
  refine Or.inr (Or.inr ⟨hunit, ?_⟩)
  by_cases hsmall : (params 0).memref.size.toNat < unitSize params
  · exact Or.inl hsmall
  have hone : (params 2).value.a.toNat = 1 := by
    by_contra hne
    exact second_round_outside A (giveAtMost_takes 0) hpos (unitSize_lt params) hinsz
      (Nat.not_lt.mp hsmall) rfl (by omega) (hloop (giveAtMost 0))
  refine Or.inr ⟨UInt32.toNat_inj.mp hone, ?_⟩
  rw [hone] at hloop
  exact room_of_inBounds A hpos (unitSize_lt params) hinsz fun most => hloop (giveAtMost most)

/-- Whatever the operation answers, the range hashed lies inside the input. -/
def ShaInBounds (A : Arch) (paramTypes : UInt32) (params : TeeParams) : Prop :=
  ∀ (σ : Type) (D : Digest σ) (op : σ), ∀ hashed ∈ (shaCmdProcess A D paramTypes params op).2,
    hashed.start ≤ (params 0).memref.size.toNat ∧
      hashed.start + hashed.len ≤ (params 0).memref.size.toNat

def ShaFits (paramTypes : UInt32) (params : TeeParams) : Prop :=
  paramTypes ≠ shaParamTypes ∨ (params 2).value.a = 0 ∨
    (params 2).value.b ≤ (params 0).memref.size

theorem digestLoop_mem (D : Digest σ) (range : Range) {op : σ} :
    ∀ hashed ∈ (digestLoop D range n op outsz).2, hashed = range := by
  induction n generalizing op outsz with
  | zero => exact fun _ h => absurd h List.not_mem_nil
  | succ n ih =>
    intro hashed hmem
    rw [digestLoop] at hmem
    dsimp only at hmem
    by_cases hres : (D op range.len outsz).1 ≠ teeSuccess
    · rw [if_pos hres] at hmem
      exact List.mem_singleton.mp hmem
    · rw [if_neg hres] at hmem
      rcases List.mem_cons.mp hmem with hmem | hmem
      · exact hmem
      · exact ih hashed hmem

theorem digestLoop_first (D : Digest σ) (range : Range) (op : σ) :
    range ∈ (digestLoop D range (n + 1) op outsz).2 := by
  rw [digestLoop]
  dsimp only
  by_cases hres : (D op range.len outsz).1 ≠ teeSuccess
  · rw [if_pos hres]
    exact List.mem_singleton_self range
  · rw [if_neg hres]
    exact List.mem_cons_self

theorem shaInBounds_iff (A : Arch) (paramTypes : UInt32) (params : TeeParams) :
    ShaInBounds A paramTypes params ↔ ShaFits paramTypes params := by
  unfold ShaInBounds shaCmdProcess ShaFits
  by_cases htypes : paramTypes ≠ shaParamTypes
  · simp only [if_pos htypes]
    exact ⟨fun _ => Or.inl htypes, fun _ _ _ _ _ h => absurd h List.not_mem_nil⟩
  simp only [if_neg htypes]
  rw [or_iff_right htypes]
  have hoffset : (params 2).value.b.toNat % A.word = (params 2).value.b.toNat :=
    Nat.mod_eq_of_lt ((params 2).value.b.toNat_lt.trans_le A.word_ge)
  rw [hoffset]
  constructor
  · intro hbounds
    by_cases hzero : (params 2).value.a = 0
    · exact Or.inl hzero
    obtain ⟨n, hn⟩ : ∃ n, (params 2).value.a.toNat = n + 1 := by
      apply Nat.exists_eq_succ_of_ne_zero
      intro h
      exact hzero (UInt32.toNat_inj.mp h)
    rw [hn] at hbounds
    exact Or.inr (hbounds Unit (fun _ _ _ => (teeSuccess, 0, ())) () _
      (digestLoop_first _ _ _)).1
  · rintro hfits σ D op hashed hmem
    have hsame := digestLoop_mem D _ hashed hmem
    rcases hfits with hzero | hle
    · rw [hzero] at hmem
      exact absurd hmem List.not_mem_nil
    · rw [hsame, UInt32.toNat_sub_of_le _ _ hle]
      have hle' : (params 2).value.b.toNat ≤ (params 0).memref.size.toNat := hle
      exact ⟨hle', (Nat.add_sub_cancel' hle').le⟩

/-- Exactly when the performance TAs hand over nothing but what lies inside their memrefs. -/
theorem perf_in_bounds_iff (A : Arch) (algo : UInt32) (aesTypes shaTypes : UInt32)
    (aesParams shaParams : TeeParams) (useSdp : Bool) (start : ℕ) :
    (AesInBounds A algo aesTypes aesParams useSdp start ↔ AesFits aesTypes aesParams start) ∧
      (ShaInBounds A shaTypes shaParams ↔ ShaFits shaTypes shaParams) :=
  ⟨⟨fits_of_aesInBounds, aesInBounds_of_fits A algo useSdp⟩, shaInBounds_iff A shaTypes shaParams⟩

def perfParams (insz outsz a b : UInt32) : TeeParams :=
  ![⟨⟨0, 0⟩, ⟨fun _ => 0, insz⟩⟩, ⟨⟨0, 0⟩, ⟨fun _ => 0, outsz⟩⟩, ⟨⟨a, b⟩, ⟨fun _ => 0, 0⟩⟩,
    ⟨⟨0, 0⟩, ⟨fun _ => 0, 0⟩⟩]

/-- Two rounds over a block, and an offset behind the data. -/
theorem second_round_and_offset_outside :
    ¬ AesInBounds .arm32 0 aesParamTypes (perfParams 16 16 2 0) false 0 ∧
      ¬ ShaInBounds .arm32 shaParamTypes (perfParams 4 32 1 5) := by
  constructor
  · intro hbounds
    have hrun := hbounds ℕ (machineOf (giveAtMost 16)) 0 rfl
    rw [aesCmdProcess_machineOf] at hrun
    exact second_round_outside .arm32 (giveAtMost_takes 16) (by decide) (by decide) (by decide)
      (by decide) rfl (by decide) hrun
  · intro hbounds
    have hfirst := (hbounds Unit (fun _ _ _ => (teeSuccess, 0, ())) () ⟨5, 4294967295⟩
      (by decide)).1
    exact absurd hfirst (by decide)

end PerfBounds
