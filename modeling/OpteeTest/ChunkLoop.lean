import Mathlib.Data.Nat.Notation
import Mathlib.Tactic.Common

/-! # Loops that work through data in chunks

Each turn takes `min remain chunk` of what remains and leaves the loop with its result when that
is not `ok`. A loop without an end, as with chunks of size zero, has no outcome. -/
namespace ChunkLoop

variable {σ ρ : Type*} [DecidableEq ρ]

def chunkLoop (ok : ρ) (body : ℕ → σ → ρ × σ) (chunk : ℕ) : ℕ → ℕ → σ → Option (ρ × σ)
  | 0, remain, s => if remain = 0 then some (ok, s) else none
  | fuel + 1, remain, s =>
    if remain = 0 then some (ok, s)
    else
      let n := if remain < chunk then remain else chunk
      let out := body n s
      if out.1 ≠ ok then some out else chunkLoop ok body chunk fuel (remain - n) out.2

def inChunks (ok : ρ) (body : ℕ → σ → ρ × σ) (chunk total : ℕ) (s : σ) : Option (ρ × σ) :=
  chunkLoop ok body chunk total total s

variable {ok : ρ} {body : ℕ → σ → ρ × σ} {chunk total : ℕ} {Inv : ℕ → σ → Prop}
  {Bad : ρ → σ → Prop}

/-- The rule of the loop. `Inv done` holds when `done` of `total` has been worked through, `Bad`
when a turn has left the loop. -/
theorem chunkLoop_rule (hchunk : 0 < chunk)
    (hturn : ∀ done s, done < total → Inv done s → ∀ out, body (min (total - done) chunk) s = out →
      (out.1 = ok → Inv (done + min (total - done) chunk) out.2) ∧
      (out.1 ≠ ok → Bad out.1 out.2))
    {fuel done : ℕ} (hfuel : total - done ≤ fuel) (hdone : done ≤ total) {s : σ}
    (hs : Inv done s) : ∃ r s', chunkLoop ok body chunk fuel (total - done) s = some (r, s') ∧
      (r = ok → Inv total s') ∧ (r ≠ ok → Bad r s') := by
  have hstop {fuel : ℕ} {s : σ} (hinv : Inv total s) :
      ∃ r s', chunkLoop ok body chunk fuel 0 s = some (r, s') ∧
        (r = ok → Inv total s') ∧ (r ≠ ok → Bad r s') := by
    refine ⟨ok, s, ?_, fun _ => hinv, fun h => absurd rfl h⟩
    cases fuel <;> rfl
  induction fuel generalizing done s with
  | zero =>
    have hend : done = total := by omega
    subst hend
    rw [Nat.sub_self]
    exact hstop hs
  | succ fuel ih =>
    by_cases hlt : done < total
    · have hsize : (if total - done < chunk then total - done else chunk) =
          min (total - done) chunk := by
        split <;> omega
      obtain ⟨out, hout⟩ : ∃ out, body (min (total - done) chunk) s = out := ⟨_, rfl⟩
      obtain ⟨hok, hbad⟩ := hturn done s hlt hs out hout
      rw [chunkLoop, if_neg (by omega), hsize]
      dsimp only
      rw [hout]
      by_cases hres : out.1 = ok
      · have hrest : total - done - min (total - done) chunk =
            total - (done + min (total - done) chunk) := by omega
        rw [if_neg (not_not.mpr hres), hrest]
        exact ih (by omega) (by omega) (hok hres)
      · rw [if_pos hres]
        exact ⟨out.1, out.2, rfl, fun h => absurd h hres, hbad⟩
    · have hend : done = total := by omega
      subst hend
      rw [Nat.sub_self]
      exact hstop hs

theorem inChunks_rule (Inv : ℕ → σ → Prop) (Bad : ρ → σ → Prop) (hchunk : 0 < chunk)
    (hturn : ∀ done s, done < total → Inv done s → ∀ out, body (min (total - done) chunk) s = out →
      (out.1 = ok → Inv (done + min (total - done) chunk) out.2) ∧
      (out.1 ≠ ok → Bad out.1 out.2)) {s : σ} (hs : Inv 0 s) :
    ∃ r s', inChunks ok body chunk total s = some (r, s') ∧
      (r = ok → Inv total s') ∧ (r ≠ ok → Bad r s') :=
  chunkLoop_rule hchunk hturn (Nat.sub_le _ _) (Nat.zero_le _) hs

theorem inChunks_always (hchunk : 0 < chunk)
    (hturn : ∀ done s, done < total → Inv done s →
      ∃ s', body (min (total - done) chunk) s = (ok, s') ∧
        Inv (done + min (total - done) chunk) s') {s : σ} (hs : Inv 0 s) :
    ∃ s', inChunks ok body chunk total s = some (ok, s') ∧ Inv total s' := by
  have hcases : ∀ done s, done < total → Inv done s → ∀ out,
      body (min (total - done) chunk) s = out →
      (out.1 = ok → Inv (done + min (total - done) chunk) out.2) ∧ (out.1 ≠ ok → False) := by
    intro done s hlt hinv out hout
    obtain ⟨s', hbody, hnext⟩ := hturn done s hlt hinv
    rw [hbody] at hout
    subst hout
    exact ⟨fun _ => hnext, fun hres => hres rfl⟩
  obtain ⟨res, s', hrun, hok, hbad⟩ := inChunks_rule Inv (fun _ _ => False) hchunk hcases hs
  have hres : res = ok := not_not.mp hbad
  subst hres
  exact ⟨s', hrun, hok rfl⟩

end ChunkLoop
