import OpteeTest.TeeApi
import Mathlib.Data.Fin.VecNotation

/-! # Copies between secure and non-secure memory

`cmd_inject` and `cmd_dump` of the `sdp_basic` TA in one address space. Both ask for the rights to
both buffers, and then move as many bytes as the secure buffer has. -/
namespace SdpCopies

open ByteMemory TeeApi

structure SdpMemref where
  buffer : ℕ
  size : UInt32

def SdpMemref.range (r : SdpMemref) : Access := ⟨r.buffer, r.size.toNat⟩

inductive Event where
  | checked (flags : UInt32) (range : Access) (res : TeeResult)
  | flushed (range : Access) (res : TeeResult)
  | moved (dst src : Access)
  deriving DecidableEq

/-- What the TEE answers. Caches are flushed in builds with `CFG_CACHE_API`. -/
structure Platform where
  checkMemoryAccessRights : UInt32 → Access → TeeResult
  cacheApi : Bool
  flushBefore : TeeResult
  flushAfter : TeeResult

structure Outcome where
  res : TeeResult
  mem : Memory UInt8
  log : List Event

def teeMemoryAccessRead : UInt32 := 0x00000001
def teeMemoryAccessWrite : UInt32 := 0x00000002
def teeMemoryAccessAnyOwner : UInt32 := 0x00000004
def teeMemoryAccessNonsecure : UInt32 := 0x10000000
def teeMemoryAccessSecure : UInt32 := 0x20000000

def sdpTypes : UInt32 := teeParamTypes .memrefInput .memrefOutput .none .none

/-- The places of the two buffers among the parameters, and the rights asked for. -/
structure Roles where
  nsIdx : Fin 4
  secIdx : Fin 4
  nsFlags : UInt32
  secFlags : UInt32
  flushesAfter : Bool

def injectRoles : Roles where
  nsIdx := 0
  secIdx := 1
  nsFlags := teeMemoryAccessAnyOwner ||| teeMemoryAccessRead ||| teeMemoryAccessNonsecure
  secFlags := teeMemoryAccessAnyOwner ||| teeMemoryAccessWrite ||| teeMemoryAccessSecure
  flushesAfter := true

def dumpRoles : Roles where
  nsIdx := 1
  secIdx := 0
  nsFlags := teeMemoryAccessAnyOwner ||| teeMemoryAccessWrite ||| teeMemoryAccessNonsecure
  secFlags := teeMemoryAccessAnyOwner ||| teeMemoryAccessRead ||| teeMemoryAccessSecure
  flushesAfter := false

variable (E : Platform) (R : Roles) (types : UInt32) (params : Fin 4 → SdpMemref)
  (mem : Memory UInt8)

def Platform.flush (answer : TeeResult) (range : Access) : TeeResult × List Event :=
  if E.cacheApi then (answer, [.flushed range answer]) else (teeSuccess, [])

/-- From the checks on: the length moved is that of the secure buffer in both commands. -/
def moveChecked (log : List Event) : Outcome :=
  let sec := (params R.secIdx).range
  let (rc, flushed) := E.flush E.flushBefore sec
  if rc ≠ teeSuccess then ⟨rc, mem, log ++ flushed⟩
  else
    let mem := copyIn mem (params 1).buffer (slice mem (params 0).buffer sec.len)
    let log := log ++ flushed ++ [.moved ⟨(params 1).buffer, sec.len⟩ ⟨(params 0).buffer, sec.len⟩]
    if R.flushesAfter then
      let (rc, flushed) := E.flush E.flushAfter sec
      ⟨rc, mem, log ++ flushed⟩
    else ⟨teeSuccess, mem, log⟩

def copySecure : Outcome :=
  let ns := (params R.nsIdx).range
  let sec := (params R.secIdx).range
  if types ≠ sdpTypes then ⟨teeErrorBadParameters, mem, []⟩
  else if (params 1).size < (params 0).size then ⟨teeErrorShortBuffer, mem, []⟩
  else
    let rc := E.checkMemoryAccessRights R.nsFlags ns
    if rc ≠ teeSuccess then ⟨rc, mem, [.checked R.nsFlags ns rc]⟩
    else
      let rc' := E.checkMemoryAccessRights R.secFlags sec
      let log := [.checked R.nsFlags ns rc, .checked R.secFlags sec rc']
      if rc' ≠ teeSuccess then ⟨rc', mem, log⟩ else moveChecked E R params mem log

def cmdInject : Outcome := copySecure E injectRoles types params mem

def cmdDump : Outcome := copySecure E dumpRoles types params mem

def Validated (log : List Event) (flags : UInt32) (a : Access) : Prop :=
  ∃ range, Event.checked flags range teeSuccess ∈ log ∧ ∀ i, a.Covers i → range.Covers i

/-- The call reads and writes only what it may, a success means that the source has been copied,
and nothing is moved when a check or the size test fails. -/
structure Confined (srcFlags dstFlags : UInt32) (out : Outcome) : Prop where
  reads : ∀ dst src, Event.moved dst src ∈ out.log →
    (∀ i, src.Covers i → (params 0).range.Covers i) ∧ Validated out.log srcFlags src
  writes : ∀ dst src, Event.moved dst src ∈ out.log →
    (∀ i, dst.Covers i → (params 1).range.Covers i) ∧ Validated out.log dstFlags dst
  frame : ∀ i, out.mem i ≠ mem i → ∃ dst src, Event.moved dst src ∈ out.log ∧ dst.Covers i
  copies : out.res = teeSuccess → slice out.mem (params 1).buffer (params 0).size.toNat =
    slice mem (params 0).buffer (params 0).size.toNat
  refuses : (params 1).size < (params 0).size ∨
      E.checkMemoryAccessRights srcFlags (params 0).range ≠ teeSuccess ∨
      E.checkMemoryAccessRights dstFlags (params 1).range ≠ teeSuccess →
    out.mem = mem ∧ ∀ dst src, Event.moved dst src ∉ out.log

variable {E R types params mem} {srcFlags dstFlags : UInt32}

structure Moves (E : Platform) (R : Roles) (types : UInt32) (params : Fin 4 → SdpMemref) :
    Prop where
  types : types = sdpTypes
  fits : (params 0).size ≤ (params 1).size
  ns : E.checkMemoryAccessRights R.nsFlags (params R.nsIdx).range = teeSuccess
  sec : E.checkMemoryAccessRights R.secFlags (params R.secIdx).range = teeSuccess
  flushed : E.cacheApi → E.flushBefore = teeSuccess

theorem flush_success {answer : TeeResult} {range : Access} :
    (E.flush answer range).1 = teeSuccess ↔ (E.cacheApi → answer = teeSuccess) := by
  unfold Platform.flush
  by_cases hcache : E.cacheApi
  · simp [hcache]
  · simp [hcache]

theorem not_moved_flush (answer : TeeResult) (range dst src : Access) :
    Event.moved dst src ∉ (E.flush answer range).2 := by
  unfold Platform.flush
  split <;> simp

theorem copySecure_stops (h : ¬ Moves E R types params) (mem : Memory UInt8) :
    (copySecure E R types params mem).res ≠ teeSuccess ∧
      (copySecure E R types params mem).mem = mem ∧
      ∀ dst src, Event.moved dst src ∉ (copySecure E R types params mem).log := by
  unfold copySecure
  by_cases htypes : types = sdpTypes
  case neg =>
    rw [if_pos htypes]
    have hbad : teeErrorBadParameters ≠ teeSuccess := by decide
    exact ⟨hbad, rfl, by simp⟩
  rw [if_neg (not_not.mpr htypes)]
  by_cases hfits : (params 1).size < (params 0).size
  · rw [if_pos hfits]
    have hshort : teeErrorShortBuffer ≠ teeSuccess := by decide
    exact ⟨hshort, rfl, by simp⟩
  rw [if_neg hfits]
  dsimp only
  by_cases hns : E.checkMemoryAccessRights R.nsFlags (params R.nsIdx).range = teeSuccess
  case neg =>
    rw [if_pos hns]
    exact ⟨hns, rfl, by simp⟩
  rw [if_neg (not_not.mpr hns)]
  by_cases hsec : E.checkMemoryAccessRights R.secFlags (params R.secIdx).range = teeSuccess
  case neg =>
    rw [if_pos hsec]
    exact ⟨hsec, rfl, by simp⟩
  rw [if_neg (not_not.mpr hsec), moveChecked]
  have hflush : (E.flush E.flushBefore (params R.secIdx).range).1 ≠ teeSuccess := by
    rw [Ne, flush_success]
    exact fun hflushed => h ⟨htypes, UInt32.not_lt.mp hfits, hns, hsec, hflushed⟩
  dsimp only
  rw [if_pos hflush]
  refine ⟨hflush, rfl, fun dst src hmoved => ?_⟩
  rcases List.mem_append.mp hmoved with hmoved | hmoved
  · simp at hmoved
  · exact not_moved_flush _ _ _ _ hmoved

theorem copySecure_moves (h : Moves E R types params) (mem : Memory UInt8) :
    (copySecure E R types params mem).mem = copyIn mem (params 1).buffer
        (slice mem (params 0).buffer (params R.secIdx).size.toNat) ∧
      (∀ dst src, Event.moved dst src ∈ (copySecure E R types params mem).log ↔
        dst = ⟨(params 1).buffer, (params R.secIdx).size.toNat⟩ ∧
          src = ⟨(params 0).buffer, (params R.secIdx).size.toNat⟩) ∧
      Event.checked R.nsFlags (params R.nsIdx).range teeSuccess ∈
        (copySecure E R types params mem).log ∧
      Event.checked R.secFlags (params R.secIdx).range teeSuccess ∈
        (copySecure E R types params mem).log := by
  have hflush : (E.flush E.flushBefore (params R.secIdx).range).1 = teeSuccess :=
    flush_success.mpr h.flushed
  unfold copySecure
  rw [if_neg (not_not.mpr h.types), if_neg (UInt32.not_lt.mpr h.fits)]
  dsimp only
  rw [h.ns, h.sec, if_neg (not_not.mpr rfl), if_neg (not_not.mpr rfl), moveChecked]
  dsimp only
  rw [if_neg (not_not.mpr hflush)]
  split
  · refine ⟨rfl, fun dst src => ?_, by simp, by simp⟩
    simp [not_moved_flush, SdpMemref.range]
  · refine ⟨rfl, fun dst src => ?_, by simp, by simp⟩
    simp [not_moved_flush, SdpMemref.range]

theorem confined_of_moves (h : Moves E R types params)
    (hlen : (params R.secIdx).size = (params 0).size)
    (hsrc : E.checkMemoryAccessRights srcFlags (params 0).range = teeSuccess)
    (hdst : E.checkMemoryAccessRights dstFlags (params 1).range = teeSuccess)
    (hsrcLog : Event.checked srcFlags (params 0).range teeSuccess ∈
      (copySecure E R types params mem).log)
    (hdstLog : Event.checked dstFlags (params 1).range teeSuccess ∈
      (copySecure E R types params mem).log) :
    Confined E params mem srcFlags dstFlags (copySecure E R types params mem) := by
  obtain ⟨hmem, hmoved, -⟩ := copySecure_moves h mem
  rw [hlen] at hmem hmoved
  have hfits := UInt32.le_iff_toNat_le.mp h.fits
  have hdstIn : ∀ i, Access.Covers ⟨(params 1).buffer, (params 0).size.toNat⟩ i →
      (params 1).range.Covers i := by
    intro i hi
    exact ⟨hi.1, lt_of_lt_of_le hi.2 (Nat.add_le_add_left hfits _)⟩
  constructor
  case reads =>
    intro dst src hm
    obtain ⟨rfl, rfl⟩ := (hmoved dst src).mp hm
    exact ⟨fun i hi => hi, _, hsrcLog, fun i hi => hi⟩
  case writes =>
    intro dst src hm
    obtain ⟨rfl, rfl⟩ := (hmoved dst src).mp hm
    exact ⟨hdstIn, _, hdstLog, hdstIn⟩
  case frame =>
    intro i hi
    refine ⟨_, _, (hmoved _ _).mpr ⟨rfl, rfl⟩, ?_⟩
    by_contra hout
    apply hi
    rw [hmem]
    apply copyIn_frame
    rw [length_slice]
    by_contra hinside
    push Not at hinside
    exact hout ⟨hinside.1, hinside.2⟩
  case copies =>
    intro _
    have hcopied := slice_copyIn mem (params 1).buffer
      (slice mem (params 0).buffer (params 0).size.toNat)
    rw [length_slice] at hcopied
    rw [hmem, hcopied]
  case refuses =>
    intro hfails
    rcases hfails with hsize | hfail | hfail
    · exact absurd h.fits (UInt32.not_le.mpr hsize)
    · exact absurd hsrc hfail
    · exact absurd hdst hfail

theorem confined_of_stops (h : ¬ Moves E R types params) :
    Confined E params mem srcFlags dstFlags (copySecure E R types params mem) := by
  obtain ⟨hres, hmem, hmoved⟩ := copySecure_stops h mem
  constructor
  case reads =>
    intro dst src hm
    exact absurd hm (hmoved dst src)
  case writes =>
    intro dst src hm
    exact absurd hm (hmoved dst src)
  case frame =>
    intro i hi
    exact absurd (congrFun hmem i) hi
  case copies =>
    intro hsuccess
    exact absurd hsuccess hres
  case refuses =>
    intro _
    exact ⟨hmem, hmoved⟩

theorem not_confined_of_longer (h : Moves E R types params)
    (hlen : (params 0).size < (params R.secIdx).size) :
    ¬ Confined E params mem srcFlags dstFlags (copySecure E R types params mem) := by
  intro hconf
  obtain ⟨-, hmoved, -⟩ := copySecure_moves h mem
  obtain ⟨hin, -⟩ := hconf.reads _ _ ((hmoved _ _).mpr ⟨rfl, rfl⟩)
  have hlt := UInt32.lt_iff_toNat_lt.mp hlen
  have hover := hin ((params 0).buffer + (params 0).size.toNat)
    ⟨Nat.le_add_right _ _, Nat.add_lt_add_left hlt _⟩
  exact absurd hover.2 (lt_irrefl _)

/-- `cmd_dump` is confined; `cmd_inject` is exactly when it stops early or the secure buffer is no
longer than the source. -/
theorem sdp_copies_confined_iff (E : Platform) (types : UInt32) (params : Fin 4 → SdpMemref)
    (mem : Memory UInt8) :
    (Confined E params mem injectRoles.nsFlags injectRoles.secFlags
        (cmdInject E types params mem) ↔
      types ≠ sdpTypes ∨ (params 1).size ≤ (params 0).size ∨
        E.checkMemoryAccessRights injectRoles.nsFlags (params 0).range ≠ teeSuccess ∨
        E.checkMemoryAccessRights injectRoles.secFlags (params 1).range ≠ teeSuccess ∨
        E.cacheApi ∧ E.flushBefore ≠ teeSuccess) ∧
      Confined E params mem dumpRoles.secFlags dumpRoles.nsFlags (cmdDump E types params mem) := by
  constructor
  · by_cases hmoves : Moves E injectRoles types params
    case neg =>
      refine iff_of_true (confined_of_stops hmoves) ?_
      by_contra hstops
      push Not at hstops
      obtain ⟨htypes, hlen, hns, hsec, hflushed⟩ := hstops
      exact hmoves ⟨htypes, UInt32.le_of_lt (UInt32.not_le.mp hlen), hns, hsec, hflushed⟩
    constructor
    · intro hconf
      by_contra hstops
      push Not at hstops
      exact not_confined_of_longer hmoves (UInt32.not_le.mp hstops.2.1) hconf
    · intro hcond
      rcases hcond with htypes | hlen | hns | hsec | ⟨hcache, hflushed⟩
      · exact absurd hmoves.types htypes
      · obtain ⟨-, -, hns, hsec⟩ := copySecure_moves hmoves mem
        have heq := UInt32.le_antisymm hlen hmoves.fits
        exact confined_of_moves hmoves heq hmoves.ns hmoves.sec hns hsec
      · exact absurd hmoves.ns hns
      · exact absurd hmoves.sec hsec
      · exact absurd (hmoves.flushed hcache) hflushed
  · by_cases hmoves : Moves E dumpRoles types params
    case neg => exact confined_of_stops hmoves
    obtain ⟨-, -, hns, hsec⟩ := copySecure_moves hmoves mem
    exact confined_of_moves hmoves rfl hmoves.sec hmoves.ns hsec hns

def granting : Platform := ⟨fun _ _ => teeSuccess, false, teeSuccess, teeSuccess⟩

/-- One byte injected into a secure buffer of two: the byte behind the source is read as well. -/
theorem not_confined_inject_longer :
    ¬ Confined granting ![⟨0, 1⟩, ⟨4, 2⟩, ⟨0, 0⟩, ⟨0, 0⟩] (fun _ => 0) injectRoles.nsFlags
      injectRoles.secFlags
      (cmdInject granting sdpTypes ![⟨0, 1⟩, ⟨4, 2⟩, ⟨0, 0⟩, ⟨0, 0⟩] (fun _ => 0)) := by
  have hmoves : Moves granting injectRoles sdpTypes ![⟨0, 1⟩, ⟨4, 2⟩, ⟨0, 0⟩, ⟨0, 0⟩] :=
    ⟨rfl, by decide, rfl, rfl, fun hcache => absurd hcache (by decide)⟩
  exact not_confined_of_longer hmoves (by decide)

end SdpCopies
