import Mathlib.Tactic.Common
import Switchboard.Proofs.Runs
import Switchboard.Proofs.Validation

/-! How long accepted settings hold good. They are checked for the features that they turn on, while
an event may turn on any feature, and then nothing is checked again. So a feature that was on at the
start always finds what it needs, however often it is turned off and on, and one that was off finds
it exactly if the settings would have been accepted with it as well. -/
namespace Switchboard.Session

open Registry

/-- The feature finds in the session what it needs, its filter being the one in the chain. -/
def Equips (session : Session) : Feature → Prop
  | .antiDuplication => ∃ rule notice slot,
      Feature.antiDuplication.entry TextFilter.priority (.duplication rule notice slot) ∈
        session.filters.text.entries ∧ rule.capacity ≠ 0 ∧ rule.expiry ≠ 0
  | .antiSpam => ∃ limit notice slot,
      Feature.antiSpam.entry TextFilter.priority (.rateLimit limit notice slot) ∈
        session.filters.text.entries ∧ limit ≠ 0
  | .multicastChat => session.settings.serverGroups.Separate
  | .globalChat => session.settings.globalServers ≠ some []
  | .filter | .muting | .emoji | .spy | .ignoring | .chatLogging => True

variable {config : Config} {session : Session} {feature : Feature}

theorem entry_mem_iff (standing : session.registry.Standing config) (filter : TextFilter) :
    feature.entry TextFilter.priority filter ∈ session.filters.text.entries ↔
      session.isActive feature = true ∧ configuredText config feature = some filter := by
  rw [Session.filters, standing.filters.text.complete]
  constructor
  · rintro ⟨other, owned, active, owns, same⟩
    obtain ⟨name, -, equal⟩ := Entry.mk.inj same
    obtain rfl : feature = other := Feature.name_injective name
    exact ⟨active, equal ▸ owns⟩
  · rintro ⟨active, owns⟩
    exact ⟨feature, filter, active, owns, rfl⟩

/-- A feature that is on finds what it needs exactly if the settings are fit for it. -/
theorem equips_iff_fit (standing : session.registry.Standing config)
    (settings : session.settings = .ofConfig config) (active : session.isActive feature = true) :
    session.Equips feature ↔ config.Fit feature := by
  cases feature with
  | antiDuplication =>
    simp only [Equips, Config.Fit, entry_mem_iff standing]
    constructor
    · rintro ⟨rule, notice, slot, ⟨-, owns⟩, capacity, expiry⟩
      cases owns
      exact ⟨capacity, fun zero => expiry (by simp [zero])⟩
    · rintro ⟨capacity, expiry⟩
      exact ⟨_, _, _, ⟨active, rfl⟩, capacity, Nat.mul_ne_zero expiry (by decide)⟩
  | antiSpam =>
    simp only [Equips, Config.Fit, entry_mem_iff standing]
    constructor
    · rintro ⟨limit, notice, slot, ⟨-, owns⟩, positive⟩
      cases owns
      exact positive
    · intro positive
      exact ⟨_, _, _, ⟨active, rfl⟩, positive⟩
  | multicastChat | globalChat =>
    simp only [Equips, settings]
    rfl
  | filter | muting | emoji | spy | ignoring | chatLogging => rfl

/-- With the features of the moment, accepted settings are accepted again exactly if those features
find what they need that were off in them. The others always do. -/
theorem accepted_after (accepted : config.validate = .ok ()) (run : List Occurrence) :
    let session := (ofConfig config).after run
    let acceptable := (config.withEnabled session.isActive).validate = .ok ()
    (acceptable ↔ ∀ feature, session.isActive feature = true → config.enabled feature = false →
      session.Equips feature) ∧
    (acceptable → ∀ feature, session.isActive feature = true → session.Equips feature) ∧
    ∀ feature, session.isActive feature = true → config.enabled feature = true →
      session.Equips feature := by
  intro session acceptable
  obtain ⟨sound, fit⟩ := Config.validate_eq_ok_iff.mp accepted
  have equips {feature : Feature} (active : session.isActive feature = true) :
      session.Equips feature ↔ config.Fit feature :=
    equips_iff_fit (standing_after config run) (settings_after config run) active
  -- Neither soundness nor fitness depends on what is on.
  have fits : acceptable ↔ ∀ feature, session.isActive feature = true → config.Fit feature := by
    have soundNow : (config.withEnabled session.isActive).Sound :=
      ⟨sound.channel, sound.patterns, sound.shortcodes, sound.templates⟩
    exact Config.validate_eq_ok_iff.trans (and_iff_right soundNow)
  refine ⟨fits.trans ⟨?_, ?_⟩, ?_, ?_⟩
  · intro fitNow feature active _
    exact (equips active).mpr (fitNow feature active)
  · intro equipped feature active
    cases initially : config.enabled feature with
    | true => exact fit feature initially
    | false => exact (equips active).mp (equipped feature active initially)
  · intro again feature active
    exact (equips active).mpr (fits.mp again feature active)
  · intro feature active initially
    exact (equips active).mpr (fit feature initially)

/-! ## Features that were off -/

/-- Nothing is wrong with a limit of no messages and with groups that overlap while they do not
count. -/
def careless : Config where
  enabled feature := feature == .antiDuplication
  messagesPerMinute := 0
  serverGroups := [["hub", "lobby"], ["lobby", "isle"]]

theorem accepted_after_careless :
    let run : List Occurrence := [⟨default, .toggle .antiDuplication false⟩,
      ⟨default, .toggle .muting true⟩, ⟨default, .toggle .antiDuplication true⟩]
    let session := (ofConfig careless).after run
    careless.validate = .ok () ∧ session.isActive .muting = true ∧
      session.Equips .antiDuplication ∧
      (careless.withEnabled session.isActive).validate = .ok () := by
  intro run session
  have accepted : careless.validate = .ok () :=
    Config.validate_of_problems.mpr (by decide +kernel)
  obtain ⟨again, -, kept⟩ := accepted_after accepted run
  refine ⟨accepted, rfl, kept _ rfl rfl, again.mpr fun feature active initially => ?_⟩
  cases feature with
  | antiSpam | multicastChat | globalChat => cases active
  | antiDuplication => cases initially
  | filter | muting | emoji | spy | ignoring | chatLogging => trivial

def alone : Config where
  enabled feature := feature == .multicastChat
  serverGroups := [["hub", "hub"]]

/-- It is not so that accepted settings stay acceptable, nor that their groups have two servers. -/
theorem accepted_after_differs :
    let run : List Occurrence :=
      [⟨default, .toggle .antiSpam true⟩, ⟨default, .toggle .multicastChat true⟩]
    let session := (ofConfig careless).after run
    careless.validate = .ok () ∧
      (careless.withEnabled session.isActive).validate =
        .error (.invalid [.noMessages, .sharedServer "lobby" 0 1]) ∧
      alone.validate = .ok () ∧ (ofConfig alone).isActive .multicastChat = true ∧
      ∀ group ∈ (ofConfig alone).settings.serverGroups, group.dedup = ["hub"] := by
  intro run session
  have accepted : careless.validate = .ok () :=
    Config.validate_of_problems.mpr (by decide +kernel)
  have acceptedAlone : alone.validate = .ok () :=
    Config.validate_of_problems.mpr (by decide +kernel)
  have found : (careless.withEnabled session.isActive).problems =
      [.noMessages, .sharedServer "lobby" 0 1] := by decide +kernel
  refine ⟨accepted, ?_, acceptedAlone, rfl, by decide +kernel⟩
  rw [Config.validate, found]
  rfl

end Switchboard.Session
