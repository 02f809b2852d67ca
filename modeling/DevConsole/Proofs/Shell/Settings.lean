import DevConsole.Proofs.Shell.Reachable

/-!
# Settings over restarts

The `Settings` of a session are its mode, font, theme and text color. Each has a name in the store
of its own. `Effect.settings` says what an effect makes of settings; it is what the effect does to
those of the session (`settings_apply`), and also to those that are stored (`stored_apply`), even
where names are stored that no setting has. So the two agree along every run of a shell
(`Later.settings_restored`).
-/

namespace DevConsole

open Files Net

variable {σ ν : Type}

/-! ## Names -/

theorem Font.ofName?_name (f : Font) : Font.ofName? f.name = some f := by cases f <;> decide

theorem TextColor.ofName?_name (c : TextColor) : TextColor.ofName? c.name = some c := by
  cases c <;> decide

theorem Theme.ofName?_name (t : Theme) : Theme.ofName? t.name = some t := by cases t <;> decide

theorem Mode.ofName?_name (m : Mode) : Mode.ofName? m.name = some m := by
  cases m <;> decide +kernel

/-! ## Stored settings -/

/-- What a session is meant to find again after a restart. -/
structure Settings where
  mode : Mode
  font : Font
  theme : Theme
  color : Option TextColor
  deriving DecidableEq, Repr

def Session.settings (s : Session) : Settings where
  mode := s.mode
  font := s.presentation.font
  theme := s.presentation.theme
  color := s.presentation.color

namespace Settings

variable [Backend σ]

/-- The names that settings are stored under. -/
def keys : List String := [Key.mode, Key.font, Key.theme, Key.color]

/-- The settings that are stored, with a mode in case there is none. -/
def stored (s : Store σ) (standard : Mode) : Settings where
  mode := ((s.get? Key.mode).bind Mode.ofName?).getD standard
  font := (Presentation.load s).font
  theme := (Presentation.load s).theme
  color := (Presentation.load s).color

theorem settings_restore (s : Store σ) (tree : Tree) (profile : Profile) :
    (Session.restore s tree profile).settings = stored s profile.defaultMode := rfl

/-- Writes under other names leave the stored settings alone. -/
theorem stored_calls (h : Backend.Separate σ) {s : Store σ} {ws : List Write}
    (hw : ∀ w ∈ ws, w.key ∉ keys) (standard : Mode) :
    stored (s.calls ws) standard = stored s standard := by
  have hget : ∀ key ∈ keys, (s.calls ws).get? key = s.get? key := fun key hkey =>
    Store.get?_calls h fun w hmem heq => hw w hmem (heq ▸ hkey)
  have hmode := hget Key.mode (by decide)
  have hfont := hget Key.font (by decide)
  have htheme := hget Key.theme (by decide)
  have hcolor := hget Key.color (by decide)
  simp only [stored, Presentation.load, hmode, hfont, htheme, hcolor]

theorem stored_set (h : Backend.Separate σ) {s : Store σ} {key : String} (hkey : key ∉ keys)
    (text : String) (standard : Mode) :
    stored (s.set key text) standard = stored s standard := by
  have hw : ∀ w ∈ [Write.set key text], w.key ∉ keys := fun w hw => by
    rw [List.mem_singleton.mp hw]
    exact hkey
  exact stored_calls h hw standard

end Settings

namespace Effect

/-- What an effect makes of settings. -/
def settings : Effect → Settings → Settings
  | .mode chosen, s => { s with mode := chosen }
  | .font f, s => { s with font := f }
  | .color c, s => { s with color := some c }
  | .theme t, s => { s with theme := t, color := none }
  | .nothing, s | .files _, s | .move _, s | .notes _, s | .tasks _, s | .timers _, s
  | .watch _, s | .blackjack _ _, s | .fullscreen, s => s

variable [Backend σ] {m : Machine σ ν}

theorem settings_apply (e : Effect) (m : Machine σ ν) :
    (e.apply m).session.settings = e.settings m.session.settings := by cases e <;> rfl

/-- Stored settings change in the same way, if the store answers with what is written. -/
theorem stored_apply {up : σ → Prop} (h : Backend.Faithful up) (hm : up m.store.backend)
    (e : Effect) (standard : Mode) :
    Settings.stored (e.apply m).store standard = e.settings (Settings.stored m.store standard) := by
  have hother {key text : String} (hkey : key ∉ Settings.keys) :
      Settings.stored (m.store.set key text) standard = Settings.stored m.store standard :=
    Settings.stored_set h.separate hkey text standard
  cases e with
  | mode chosen =>
    simp (disch := decide) only [apply, settings, Settings.stored, Presentation.load,
      Store.get?_set h.reliable hm, Store.get?_set_of_ne h.separate, Mode.ofName?_name,
      Option.bind_some, Option.getD_some]
  | font f =>
    simp (disch := decide) only [apply, settings, Settings.stored, Presentation.load,
      Store.get?_set h.reliable hm, Store.get?_set_of_ne h.separate, Font.ofName?_name,
      Option.bind_some, Option.getD_some]
  | color c =>
    simp (disch := decide) only [apply, settings, Settings.stored, Presentation.load,
      Store.get?_set h.reliable hm, Store.get?_set_of_ne h.separate, TextColor.ofName?_name,
      Option.bind_some]
  | theme t =>
    have hup : up (m.store.set Key.theme t.name).backend := h.reliable.set_up hm _ _
    simp (disch := decide) only [apply, settings, Settings.stored, Presentation.load,
      Store.get?_remove h hup, Store.get?_remove_of_ne h.separate, Store.get?_set h.reliable hm,
      Store.get?_set_of_ne h.separate, Theme.ofName?_name, Option.bind_some, Option.bind_none,
      Option.getD_some]
  | files t =>
    simp only [apply, Volume.commit, Volume.save]
    split
    · exact hother (by decide)
    · rfl
  | blackjack round balance =>
    cases balance with
    | none => rfl
    | some n => exact hother (by decide)
  | notes entries => exact hother (by decide)
  | tasks entries => exact hother (by decide)
  | _ => rfl

end Effect

namespace Shell

variable [Backend σ] [Client ν] {s t : Shell σ ν} {config : Config} {now : Instant} {raw : String}
  {shown : Display} {up : σ → Prop}

/-- The store of the shell answers, and what it holds are the settings of the session. -/
structure Settled (up : σ → Prop) (config : Config) (s : Shell σ ν) : Prop where
  up : up s.store.backend
  profile : s.profile = Profile.ofConfig config
  settings : Settings.stored s.store s.profile.defaultMode = s.session.settings

namespace Settled

omit [Client ν] in
/-- Only store, profile and settings matter. -/
theorem of_eq (h : s.Settled up config) (hstore : t.store = s.store)
    (hprofile : t.profile = s.profile) (hsettings : t.session.settings = s.session.settings) :
    t.Settled up config where
  up := hstore ▸ h.up
  profile := hprofile.trans h.profile
  settings := by rw [hstore, hprofile, hsettings, h.settings]

omit [Client ν] in
theorem start (h : Backend.Faithful up) {store : Store σ} (hs : up store.backend)
    (config : Config) (network : Network ν) (clock : Clock) (random : Random) :
    (Shell.start config store network clock random).Settled up config where
  up := up_start h.toDependable hs config network clock random
  profile := rfl
  settings := rfl

/-- An effect of a command changes what is stored as it changes the session. -/
theorem acts (h : Backend.Faithful up) (hs : s.Settled up config) {c : Builtin} {call : Call}
    (hacts : c.Acts call s.toMachine t.toMachine) (hprofile : t.profile = s.profile) :
    t.Settled up config := by
  obtain ⟨e, -, hm⟩ := hacts
  have hstore : t.store = (e.apply s.toMachine).store := by rw [hm]
  have hlive : t.session.settings = e.settings s.session.settings := by
    rw [hm]
    exact e.settings_apply s.toMachine
  refine ⟨?_, hprofile.trans hs.profile, ?_⟩
  · rw [hstore, e.store_apply]
    exact Store.up_calls h.toDependable hs.up _
  · rw [hlive, hstore, e.stored_apply h hs.up, hprofile, hs.settings]

theorem dispatch (h : Backend.Faithful up) (hs : s.Settled up config)
    (hd : s.dispatch now raw = .ok (t, shown)) : t.Settled up config := by
  have hrecorded : (s.recorded (Text.trim raw)).Settled up config := hs.of_eq rfl rfl rfl
  have hprofile := profile_dispatch hd
  have hruns := runs_of_dispatch hd
  generalize hm : t.toMachine = m at hruns
  cases hruns with
  | blank =>
    exact hs.of_eq (congrArg Machine.store hm) hprofile (congrArg (·.session.settings) hm)
  | refused =>
    exact hrecorded.of_eq (congrArg Machine.store hm) hprofile (congrArg (·.session.settings) hm)
  | called _ hacts =>
    rw [← hm] at hacts
    exact hrecorded.acts h hacts hprofile

/-- Whatever happens, the stored settings stay those of the session. -/
theorem kept (h : Backend.Faithful up) : Kept fun s : Shell σ ν => s.Settled up config where
  alike hs hst := hs.of_eq hst.store hst.profile (congrArg Session.settings hst.session)
  line hs := hs.dispatch h
  event hs he hd := by
    rw [handle_eq he hd]
    exact hs.of_eq rfl rfl rfl
  tick hs hd := by
    rw [tick_eq hd]
    exact hs.of_eq rfl rfl rfl

omit [Client ν] in
/-- A new start finds the settings of the session. -/
theorem restart (h : Backend.Separate σ) (hs : s.Settled up config) (network : Network ν)
    (clock : Clock) (random : Random) :
    (Shell.start config s.store network clock random).session.settings = s.session.settings := by
  obtain ⟨ws, hstore, hfs⟩ := exists_calls_of_start config s.store network clock random
  have hkeys : ∀ w ∈ ws, w.key ∉ Settings.keys := fun w hw => by
    rw [hfs w hw]
    decide
  calc (Shell.start config s.store network clock random).session.settings
      = Settings.stored (Shell.start config s.store network clock random).store
          (Profile.ofConfig config).defaultMode := rfl
    _ = Settings.stored s.store (Profile.ofConfig config).defaultMode := by
      rw [hstore, Settings.stored_calls h hkeys]
    _ = s.session.settings := by rw [← hs.profile, hs.settings]

end Settled

/-- On a store that answers with what is written, and whatever it holds at first, the mode, the
font, the theme and the text color of a shell are at any time the ones that a session restored from
its store has, and so those of a shell started over. -/
theorem Later.settings_restored (h : Backend.Faithful up) {store : Store σ}
    (hs : up store.backend) {network : Network ν} {clock : Clock} {random : Random}
    (hrun : (Shell.start config store network clock random).Later t) :
    (Session.restore t.store t.volume.tree t.profile).settings = t.session.settings ∧
      ∀ (network : Network ν) clock random,
        (Shell.start config t.store network clock random).session.settings =
          t.session.settings := by
  have hsettled := (Settled.kept h).later (Settled.start h hs config network clock random) hrun
  refine ⟨?_, hsettled.restart h.separate⟩
  rw [Settings.settings_restore]
  exact hsettled.settings

set_option maxRecDepth 4000 in
/-- Names that no setting has are stored at first; a color is chosen and given up for a theme. -/
theorem settings_restored_repainted :
    let store : Store MemoryStore :=
      ⟨{ entries := [(Key.color, "puce"), (Key.font, "modern"), (Key.mode, "warp"),
          (Key.theme, "ocean")] }, []⟩
    let s : Shell MemoryStore Offline := start {} store ⟨⟨⟩, []⟩ {} ⟨0⟩
    s.session.settings = ⟨.development, .modern, .ocean, none⟩ ∧
      ∃ t shown t' shown', s.dispatch ⟨0⟩ "color red" = .ok (t, shown) ∧
        ((t.submit "theme dracula").submit "mode FUN").processQueue ⟨0⟩ = .ok (t', shown') ∧
          s.Later t ∧ s.Later t' ∧
            t.session.settings = ⟨.development, .modern, .ocean, some .red⟩ ∧
            (Session.restore t.store t.volume.tree t.profile).settings = t.session.settings ∧
              t'.session.settings = ⟨.novelty, .modern, .dracula, none⟩ ∧
              (Session.restore t'.store t'.volume.tree t'.profile).settings =
                t'.session.settings ∧ t'.store.get? Key.color = none := by
  intro store s
  have hup : (store.backend.failReads = false ∧ store.backend.failWrites = false) ∧
      store.backend.entries.Ordered := ⟨⟨rfl, rfl⟩, by decide +kernel⟩
  have hstart : s.session.settings = ⟨.development, .modern, .ocean, none⟩ := by decide +kernel
  have hplay : ((s.dispatch ⟨0⟩ "color red").toOption.bind fun p =>
        (((p.1.submit "theme dracula").submit "mode FUN").processQueue ⟨0⟩).toOption.map fun q =>
          (p.1.session.settings, q.1.session.settings, q.1.store.get? Key.color)) =
      some (⟨.development, .modern, .ocean, some .red⟩, ⟨.novelty, .modern, .dracula, none⟩,
        none) := by
    decide +kernel
  obtain ⟨⟨t, shown⟩, hfirst, hrest⟩ := Option.bind_eq_some_iff.mp hplay
  obtain ⟨⟨t', shown'⟩, hsecond, hvalues⟩ := Option.map_eq_some_iff.mp hrest
  simp only [Prod.mk.injEq] at hvalues
  obtain ⟨hred, hdracula, hcolor⟩ := hvalues
  have hd : s.dispatch ⟨0⟩ "color red" = .ok (t, shown) := Step.eq_ok_of_toOption hfirst
  have hq : ((t.submit "theme dracula").submit "mode FUN").processQueue ⟨0⟩ = .ok (t', shown') :=
    Step.eq_ok_of_toOption hsecond
  have hrun : s.Later t := Relation.ReflTransGen.refl.tail (.dispatch hd)
  have hrun' : s.Later t' :=
    ((hrun.tail (.submit "theme dracula")).tail (.submit "mode FUN")).tail (.processQueue hq)
  obtain ⟨hsettings, -⟩ := hrun.settings_restored MemoryStore.faithful hup
  obtain ⟨hsettings', -⟩ := hrun'.settings_restored MemoryStore.faithful hup
  exact ⟨hstart, t, shown, t', shown', hd, hq, hrun, hrun', hred, hsettings, hdracula, hsettings',
    hcolor⟩

end Shell
end DevConsole
