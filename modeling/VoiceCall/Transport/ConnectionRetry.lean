import VoiceCall.Foundation.Bracket
import VoiceCall.Transport.ConnectionMoves

namespace VoiceCall.Transport.Connection
open Foundation

variable {Double : Type}

/-- What the application has set for the attempts of a client. -/
structure Settings where
  reconnDelay : UInt32
  reconnDelayMax : UInt32
  reconnAttempts : UInt32
deriving DecidableEq, Repr

namespace Settings

def initial : Settings := ⟨5000, 25000, 0xFFFFFFFF⟩

/-- The delay in milliseconds that comes after some attempts. -/
def delayAfter (platform : Platform) (settings : Settings) (made : UInt32) : UInt32 :=
  UInt32.ofNat ⌊min (platform.round (settings.reconnDelay.toNat * (3 / 2) ^ (min made 32).toNat))
    settings.reconnDelayMax.toNat⌋₊

variable {platform : Platform} {settings : Settings}

/-- The floor is taken of a number that is no greater than the maximum. -/
theorem delayAfter_toNat (made : UInt32) :
    (settings.delayAfter platform made).toNat =
      ⌊min (platform.round (settings.reconnDelay.toNat * (3 / 2) ^ (min made 32).toNat))
        settings.reconnDelayMax.toNat⌋₊ := by
  have small : ⌊min (platform.round
      (settings.reconnDelay.toNat * (3 / 2) ^ (min made 32).toNat))
        settings.reconnDelayMax.toNat⌋₊ ≤ settings.reconnDelayMax.toNat := by
    apply Nat.floor_le_of_le
    exact min_le_right _ _
  rw [delayAfter, UInt32.toNat_ofNat']
  exact Nat.mod_eq_of_lt (small.trans_lt settings.reconnDelayMax.toNat_lt)

theorem delayAfter_le_max (made : UInt32) :
    settings.delayAfter platform made ≤ settings.reconnDelayMax := by
  rw [UInt32.le_iff_toNat_le, delayAfter_toNat]
  apply Nat.floor_le_of_le
  exact min_le_right _ _

/-- The first delay is a natural number, which no rounding changes, and later ones are greater. -/
theorem le_delayAfter (ordered : settings.reconnDelay ≤ settings.reconnDelayMax) (made : UInt32) :
    settings.reconnDelay ≤ settings.delayAfter platform made := by
  rw [UInt32.le_iff_toNat_le, delayAfter_toNat]
  apply Nat.le_floor
  apply le_min
  · have exact' : platform.round settings.reconnDelay.toNat = settings.reconnDelay.toNat := by
      apply platform.round_natural
      have bound := settings.reconnDelay.toNat_lt
      omega
    have grows : (settings.reconnDelay.toNat : ℚ) ≤
        settings.reconnDelay.toNat * (3 / 2) ^ (min made 32).toNat := by
      apply le_mul_of_one_le_right (Nat.cast_nonneg _)
      exact one_le_pow₀ (by norm_num)
    exact exact'.symm.le.trans (platform.round_mono grows)
  · exact Nat.cast_le.mpr (UInt32.le_iff_toNat_le.mp ordered)

theorem min_toNat (made : UInt32) : (min made 32).toNat = min made.toNat 32 := by
  change (if made ≤ 32 then made else 32).toNat = _
  split_ifs with small
  · exact (min_eq_left (UInt32.le_iff_toNat_le.mp small)).symm
  · exact (min_eq_right (UInt32.lt_iff_toNat_lt.mp (UInt32.not_le.mp small)).le).symm

/-- More attempts never make a shorter delay. -/
theorem delayAfter_mono {made later : UInt32} (more : made ≤ later) :
    settings.delayAfter platform made ≤ settings.delayAfter platform later := by
  have capped : (min made 32).toNat ≤ (min later 32).toNat := by
    rw [min_toNat, min_toNat]
    exact min_le_min_right _ (UInt32.le_iff_toNat_le.mp more)
  have grows : (settings.reconnDelay.toNat : ℚ) * (3 / 2) ^ (min made 32).toNat ≤
      settings.reconnDelay.toNat * (3 / 2) ^ (min later 32).toNat := by
    apply mul_le_mul_of_nonneg_left _ (Nat.cast_nonneg _)
    exact pow_le_pow_right₀ (by norm_num) capped
  rw [UInt32.le_iff_toNat_le, delayAfter_toNat, delayAfter_toNat]
  apply Nat.floor_le_floor
  exact min_le_min_right _ (platform.round_mono grows)

end Settings

def settings (connection : Connection Double) : Settings :=
  ⟨connection.reconnDelay, connection.reconnDelayMax, connection.reconnAttempts⟩

def settingsAfter (settings : Settings) : Note Double → Settings
  | .tuned reconnDelay reconnDelayMax reconnAttempts =>
      ⟨reconnDelay, reconnDelayMax, reconnAttempts⟩
  | _ => settings

/-- The settings that a log leaves. -/
def settingsIn (log : List (Note Double)) : Settings := log.foldl settingsAfter .initial

def attemptsAfter (attempts : Nat) : Note Double → Nat
  | .started | .invoked .onOpen => 0
  | .reconnecting => attempts + 1
  | _ => attempts

/-- The attempts to reconnect since the last start or open session of a log. -/
def attemptsIn (log : List (Note Double)) : Nat := log.foldl attemptsAfter 0

/-- An announcement tells how many attempts there were, which is below the number that is allowed,
and the delay that the settings give after them. -/
def Announces (platform : Platform) (before : List (Note Double)) : Note Double → Prop
  | .reconnect made delay =>
      made.toNat = attemptsIn before ∧ made < (settingsIn before).reconnAttempts ∧
        (settingsIn before).reconnDelay ≤ (settingsIn before).reconnDelayMax ∧
        delay = (settingsIn before).delayAfter platform made
  | _ => True

/-- A client counts its attempts and keeps its settings as its notes say, and has room to count the
attempt that is outstanding. -/
structure Counted (platform : Platform) (connection : Connection Double) : Prop where
  settings : settingsIn connection.log = connection.settings
  made : attemptsIn connection.log = connection.reconnMade.toNat
  ordered : connection.reconnDelay ≤ connection.reconnDelayMax
  room : 0 < connection.outstanding → connection.reconnMade.toNat + 1 < 2 ^ 32
  announced : AtEach (Announces platform) connection.log

variable {platform : Platform} {connection next : Connection Double}

theorem Counted.same (counted : Counted platform connection) (log : next.log = connection.log)
    (settings : next.settings = connection.settings)
    (made : next.reconnMade = connection.reconnMade)
    (fewer : next.outstanding ≤ connection.outstanding) : Counted platform next := by
  obtain ⟨delay, delayMax, _⟩ := Settings.mk.inj settings
  constructor
  · rw [log, settings]
    exact counted.settings
  · rw [log, made]
    exact counted.made
  · rw [delay, delayMax]
    exact counted.ordered
  · rw [made]
    exact fun some => counted.room (some.trans_le fewer)
  · rw [log]
    exact counted.announced

theorem Counted.note (counted : Counted platform connection) {entry : Note Double}
    (log : next.log = connection.log ++ [entry])
    (settings : next.settings = settingsAfter connection.settings entry)
    (made : next.reconnMade.toNat = attemptsAfter connection.reconnMade.toNat entry)
    (ordered : next.reconnDelay ≤ next.reconnDelayMax)
    (room : 0 < next.outstanding → next.reconnMade.toNat + 1 < 2 ^ 32)
    (announces : Announces platform connection.log entry) : Counted platform next := by
  constructor
  · rw [log, settingsIn, List.foldl_append, settings, ← counted.settings]
    rfl
  · rw [log, attemptsIn, List.foldl_append, made, ← counted.made]
    rfl
  · exact ordered
  · exact room
  · rw [log]
    exact counted.announced.append_singleton announces

section Runs
variable [DoubleText Double]

theorem Counted.move (settled : Settled connection) (counted : Counted platform connection)
    (moved : Move platform connection next) : Counted platform next := by
  have zeroRoom : (0 : UInt32).toNat + 1 < 2 ^ 32 := by decide
  cases moved with
  | unarmed | armed | waited | gaveUp | kept | named | ended | left | linked =>
      exact counted.same rfl rfl rfl le_rfl
  | posted task quiet => exact counted.same rfl rfl rfl (outstanding_posted quiet).le
  | took task tasks head => exact counted.same rfl rfl rfl (outstanding_took head)
  | stopped => exact counted.same rfl rfl rfl (outstanding_stopped connection)
  | expired waits => exact counted.same rfl rfl rfl (outstanding_expired waits).le
  | noted entry plain =>
      cases entry with
      | created | encoded | failed | closed | opened | wrote | answered =>
          exact counted.note rfl rfl rfl counted.ordered counted.room trivial
      | _ => exact plain.elim
  | received | attempted | missed | asked =>
      exact counted.note rfl rfl rfl counted.ordered counted.room trivial
  | tuned reconnDelay reconnDelayMax reconnAttempts ordered =>
      exact counted.note rfl rfl rfl (ordered counted.ordered) counted.room trivial
  | handed payload packetMgr packet =>
      have first : Counted platform ({ connection with packetMgr }.note (.received payload)) :=
        counted.note rfl rfl rfl counted.ordered counted.room trivial
      exact first.note rfl rfl rfl counted.ordered counted.room trivial
  | lost =>
      have first : Counted platform (connection.note .unlinked) :=
        counted.note rfl rfl rfl counted.ordered counted.room trivial
      exact first.note rfl rfl rfl counted.ordered counted.room trivial
  | started =>
      exact counted.note rfl rfl rfl counted.ordered (fun _ => zeroRoom) trivial
  | opened =>
      exact counted.note rfl rfl rfl counted.ordered (fun _ => zeroRoom) trivial
  | retried tasks head closed =>
      have some : 0 < connection.outstanding := by
        unfold outstanding
        rw [head, List.countP_cons_of_pos rfl]
        omega
      have made : (connection.reconnMade + 1).toNat = connection.reconnMade.toNat + 1 := by
        rw [UInt32.toNat_add]
        exact Nat.mod_eq_of_lt (counted.room some)
      have none' := (settled.single_head head rfl).1
      exact counted.note rfl rfl made counted.ordered (fun more => absurd none' more.ne') trivial
  | scheduled single free closed running allowed goesOn =>
      have below := UInt32.lt_iff_toNat_lt.mp allowed
      have bound := connection.reconnAttempts.toNat_lt
      refine counted.note rfl rfl rfl counted.ordered (fun _ => ?_) ?_
      · change connection.reconnMade.toNat + 1 < 2 ^ 32
        omega
      · refine ⟨counted.made.symm, ?_, ?_, ?_⟩
        · rw [counted.settings]
          exact allowed
        · rw [counted.settings]
          exact counted.ordered
        · rw [counted.settings]
          rfl

theorem counted_of_reachable (reached : (machine platform).Reachable connection) :
    Counted platform connection := by
  apply moves_induction _ _ reached
  · have ordered : (5000 : UInt32) ≤ 25000 := by decide
    exact ⟨rfl, rfl, ordered, nofun, atEach_nil⟩
  · exact fun _ _ settled counted moved => counted.move settled moved

/-- A client announces each attempt to reconnect with the exact number of those since its last
start or open session, also when settings change, and only while fewer were made than the last
settings allow. -/
theorem reconnects_counted (reached : (machine platform).Reachable connection)
    {before after : List (Note Double)} {made delay : UInt32}
    (split : connection.log = before ++ .reconnect made delay :: after) :
    made.toNat = attemptsIn before ∧ made < (settingsIn before).reconnAttempts := by
  have announced := (counted_of_reachable reached).announced before _ after split
  exact ⟨announced.1, announced.2.1⟩

/-- Two attempts in a row fail. -/
def failing : List (Act Empty) :=
  [.connect [] [] .nullptr, .ran, .failed [], .reconnExpired, .ran, .failed []]

def failed : Connection Empty := ((machine plainPlatform).exec initial failing).get rfl

theorem failed_reachable : (machine plainPlatform).Reachable failed :=
  Machine.Reachable.exec (.initial rfl) (Option.some_get _).symm

theorem delays_failed : Settings.initial.delayAfter plainPlatform 0 = 5000 ∧
    Settings.initial.delayAfter plainPlatform 1 = 7500 := by
  have floor (number : Nat) (value : ℚ) (same : value = number) : ⌊value⌋₊ = number := by
    rw [same, Nat.floor_natCast]
  constructor
  · rw [← UInt32.toNat_inj, Settings.delayAfter_toNat, Settings.min_toNat]
    apply floor
    change min (((5000 : ℕ) : ℚ) * (3 / 2) ^ 0) ((25000 : ℕ) : ℚ) = ((5000 : ℕ) : ℚ)
    norm_num
  · rw [← UInt32.toNat_inj, Settings.delayAfter_toNat, Settings.min_toNat]
    apply floor
    change min (((5000 : ℕ) : ℚ) * (3 / 2) ^ 1) ((25000 : ℕ) : ℚ) = ((7500 : ℕ) : ℚ)
    norm_num

theorem failed_first :
    failed.log = failed.log.take 4 ++ .reconnect 0 5000 :: failed.log.drop 5 := by
  have shape : failed.log = failed.log.take 4 ++
      .reconnect 0 (Settings.initial.delayAfter plainPlatform 0) :: failed.log.drop 5 := rfl
  rwa [delays_failed.1] at shape

theorem failed_second : failed.log = failed.log.take 9 ++ .reconnect 1 7500 :: [] := by
  have shape : failed.log = failed.log.take 9 ++
      .reconnect 1 (Settings.initial.delayAfter plainPlatform 1) :: [] := rfl
  rwa [delays_failed.2] at shape

theorem reconnects_counted_failed :
    (1 : UInt32).toNat = attemptsIn (failed.log.take 9) ∧
      1 < (settingsIn (failed.log.take 9)).reconnAttempts :=
  reconnects_counted failed_reachable failed_second

/-- An announced delay is between the two delays that are set, and under the same settings a later
attempt never waits less. -/
theorem delays_grow (reached : (machine platform).Reachable connection)
    {before after otherBefore otherAfter : List (Note Double)} {made later delay longer : UInt32}
    (first : connection.log = before ++ .reconnect made delay :: after)
    (second : connection.log = otherBefore ++ .reconnect later longer :: otherAfter)
    (same : settingsIn before = settingsIn otherBefore) (more : made ≤ later) :
    (settingsIn before).reconnDelay ≤ delay ∧ delay ≤ longer ∧
      longer ≤ (settingsIn before).reconnDelayMax := by
  have announced := (counted_of_reachable reached).announced
  obtain ⟨_, _, ordered, rfl⟩ := announced before _ after first
  obtain ⟨_, _, _, rfl⟩ := announced otherBefore _ otherAfter second
  rw [← same]
  exact ⟨Settings.le_delayAfter ordered made, Settings.delayAfter_mono more,
    Settings.delayAfter_le_max later⟩

theorem delays_grow_failed :
    (settingsIn (failed.log.take 4)).reconnDelay ≤ 5000 ∧ (5000 : UInt32) ≤ 7500 ∧
      7500 ≤ (settingsIn (failed.log.take 4)).reconnDelayMax :=
  delays_grow failed_reachable failed_first failed_second rfl (by decide)

end Runs
end VoiceCall.Transport.Connection
