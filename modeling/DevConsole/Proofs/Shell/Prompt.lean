import DevConsole.Proofs.Files.NormalForm
import DevConsole.Proofs.Files.Resolution
import DevConsole.Net.Table
import DevConsole.Shell.Basic
import DevConsole.Store.Memory

/-!
# The prompt

Where a path lies at or below the home directory, the prompt has a tilde and the rest of the path
for it (`locationText_of_below`), elsewhere the path itself (`locationText_of_not_below`). With the
home directory put back for the tilde (`expandHome`), the text leads to the directory again
(`parse_expandHome`), whatever its names are and also if the root is the home directory. So two
directories never have the same prompt (`prompt_identifies`).
-/

namespace DevConsole

open Files Net

namespace Files.Path

variable {p q : Path}

/-- The path as it is written behind another one: a slash before every name. -/
def trail (p : Path) : String := String.join (p.segments.map ("/" ++ ·))

theorem render_of_ne_root (h : p.segments ≠ []) : p.render = p.trail :=
  if_neg (by simpa using h)

theorem slash_joinWith (h : p.segments ≠ []) : "/" ++ Text.joinWith "/" p.segments = p.trail := by
  rw [← render_eq_joinWith, render_of_ne_root h]

theorem trail_append (p : Path) (rest : List String) :
    trail ⟨p.segments ++ rest⟩ = p.trail ++ trail ⟨rest⟩ := by
  rw [trail, List.map_append, String.join_append]
  rfl

theorem head?_render (p : Path) : p.render.toList.head? = some '/' := by
  cases hp : p.segments with
  | nil => simp [render, hp]
  | cons name rest => simp [render, hp]

/-- From the root it does not matter whether the text starts with a slash. -/
theorem parse_slash_append (text : String) : parse ("/" ++ text) = parse text := by
  have hslash : isAbsolute ("/" ++ text) = true := by simp [isAbsolute]
  have hsplit := splitOn_append_slash "" text
  rw [String.empty_append] at hsplit
  rw [parse, parse, resolve, resolve, hslash, hsplit, List.foldl_append]
  simp [root, Text.splitOn, follow]

theorem parse_trail (h : p.Valid) : parse p.trail = p := by
  by_cases hp : p.segments = []
  · obtain ⟨segments⟩ := p
    subst hp
    decide +kernel
  · rw [← render_of_ne_root hp]
    exact resolve_render h root

/-- A path written behind another one leads on from there. -/
theorem parse_render_append (hp : p.Valid) (hq : q.Valid) :
    parse (p.render ++ q.trail) = ⟨p.segments ++ q.segments⟩ := by
  by_cases hroot : p.segments = []
  · have hslash : p.render = "/" := by rw [render, hroot]; rfl
    rw [hslash, parse_slash_append, parse_trail hq, hroot, List.nil_append]
  · have hvalid : Valid ⟨p.segments ++ q.segments⟩ := List.forall_mem_append.mpr ⟨hp, hq⟩
    rw [render_of_ne_root hroot, ← trail_append, parse_trail hvalid]

end Files.Path

namespace Shell

variable {σ ν : Type} {s : Shell σ ν} {home cwd : Path}

/-- A text with the home directory written out for the tilde that it starts with. -/
def expandHome (home : Path) (location : String) : String :=
  match location.toList with
  | '~' :: rest => home.render ++ String.ofList rest
  | _ => location

theorem expandHome_tilde (home : Path) (rest : String) :
    expandHome home ("~" ++ rest) = home.render ++ rest := by
  simp [expandHome]

theorem expandHome_render (home p : Path) : expandHome home p.render = p.render := by
  have hhead := p.head?_render
  unfold expandHome
  split
  · rename_i hlist
    rw [hlist] at hhead
    cases hhead
  · rfl

theorem ne_tilde_append (p : Path) (rest : String) : p.render ≠ "~" ++ rest := by
  intro h
  have hhead := p.head?_render
  rw [h] at hhead
  simp at hhead

theorem below?_append (home rest : List String) : below? home (home ++ rest) = some rest := by
  rw [below?, if_pos (List.isPrefixOf_iff_prefix.mpr (List.prefix_append home rest)),
    List.drop_left]

theorem locationText_of_below (below : Path)
    (h : cwd.segments = home.segments ++ below.segments) :
    locationText home cwd = "~" ++ below.trail := by
  have hbelow : below? home.segments cwd.segments = some below.segments := by
    rw [h, below?_append]
  rw [locationText, hbelow]
  split
  · rename_i hnone
    have hempty : below.trail = "" := by rw [Path.trail, Option.some.inj hnone]; rfl
    rw [hempty, String.append_empty]
  · rename_i rest hne hrest
    obtain rfl := Option.some.inj hrest
    rw [← Path.slash_joinWith hne, ← String.append_assoc]
    rfl
  · rename_i hnone
    cases hnone

theorem locationText_of_not_below (h : ¬home.segments <+: cwd.segments) :
    locationText home cwd = cwd.render := by
  rw [locationText, below?, if_neg (mt List.isPrefixOf_iff_prefix.mp h)]

/-- The text leads to the directory again. -/
theorem parse_expandHome (hhome : home.Valid) (hcwd : cwd.Valid) :
    Path.parse (expandHome home (locationText home cwd)) = cwd := by
  by_cases h : home.segments <+: cwd.segments
  · obtain ⟨rest, hrest⟩ := h
    have hbelow : Path.Valid ⟨rest⟩ := fun name hname =>
      hcwd name (hrest ▸ List.mem_append_right _ hname)
    rw [locationText_of_below ⟨rest⟩ hrest.symm, expandHome_tilde,
      Path.parse_render_append hhome hbelow, hrest]
  · rw [locationText_of_not_below h, expandHome_render]
    exact Path.resolve_render hcwd Path.root

/-- What the prompt has for a directory tells which one it is. -/
structure Located (home cwd : Path) (location : String) : Prop where
  abbreviated : (∃ below : Path, below.Obtained ∧ location = "~" ++ below.trail) ↔
    home.segments <+: cwd.segments
  tilde : location.toList.head? = some '~' ↔ home.segments <+: cwd.segments
  below : ∀ below : Path, cwd.segments = home.segments ++ below.segments →
    location = "~" ++ below.trail
  elsewhere : ¬home.segments <+: cwd.segments → location = cwd.render
  restored : Path.parse (expandHome home location) = cwd

theorem located_locationText (hhome : home.Valid) (hcwd : cwd.Valid) :
    Located home cwd (locationText home cwd) where
  abbreviated := by
    constructor
    · rintro ⟨below, -, hlocation⟩
      by_contra hnot
      rw [locationText_of_not_below hnot] at hlocation
      exact ne_tilde_append _ _ hlocation
    · rintro ⟨rest, hrest⟩
      refine ⟨⟨rest⟩, Path.obtained_iff_valid.mpr fun name hname => ?_,
        locationText_of_below ⟨rest⟩ hrest.symm⟩
      exact hcwd name (hrest ▸ List.mem_append_right _ hname)
  tilde := by
    constructor
    · intro hhead
      by_contra hnot
      rw [locationText_of_not_below hnot, Path.head?_render] at hhead
      cases hhead
    · rintro ⟨rest, hrest⟩
      rw [locationText_of_below ⟨rest⟩ hrest.symm]
      simp
  below below h := locationText_of_below below h
  elsewhere h := locationText_of_not_below h
  restored := parse_expandHome hhome hcwd

/-- The prompt names the user, the host, the mode and the directory, and with the same profile and
mode it tells any two directories apart. -/
theorem prompt_identifies (hhome : s.profile.home.Obtained) (hcwd : s.session.cwd.Obtained) :
    (∃ location, Located s.profile.home s.session.cwd location ∧
      s.prompt = s.profile.user ++ "@" ++ s.profile.hostname ++ " [" ++ s.session.mode.name ++
        "]:" ++ location ++ "$") ∧
      ∀ t : Shell σ ν, t.profile = s.profile → t.session.mode = s.session.mode →
        t.session.cwd.Obtained → (t.prompt = s.prompt ↔ t.session.cwd = s.session.cwd) := by
  refine ⟨⟨_, located_locationText hhome.valid hcwd.valid, rfl⟩, fun t hprofile hmode ht => ?_⟩
  constructor
  · intro hprompt
    rw [prompt, prompt, hprofile, hmode, String.append_left_inj, String.append_right_inj] at hprompt
    have hrestored := parse_expandHome hhome.valid ht.valid
    rw [hprompt, parse_expandHome hhome.valid hcwd.valid] at hrestored
    exact hrestored.symm
  · intro heq
    rw [prompt, prompt, hprofile, hmode, heq]

/-- A directory whose name starts like that of the home directory, and one below the home directory
with a tilde in its name. -/
theorem prompt_identifies_sibling :
    let start : Shell MemoryStore Offline := start {} ⟨{}, []⟩ ⟨⟨⟩, []⟩ {} ⟨0⟩
    let s := { start with session := { start.session with cwd := ⟨["home", "username"]⟩ } }
    let t := { start with session := { start.session with cwd := ⟨["home", "user", "~name"]⟩ } }
    s.profile.home = ⟨["home", "user"]⟩ ∧ s.prompt = "user@pro-sys [dev]:/home/username$" ∧
      t.prompt = "user@pro-sys [dev]:~/~name$" ∧ s.profile.home.Obtained ∧
      s.session.cwd.Obtained ∧ t.session.cwd.Obtained ∧
      (∃ location, Located s.profile.home s.session.cwd location) ∧
        (t.prompt = s.prompt ↔ t.session.cwd = s.session.cwd) := by
  intro start s t
  have hhome : s.profile.home = ⟨["home", "user"]⟩ := by decide +kernel
  have hobtained : s.profile.home.Obtained := Path.obtained_iff_valid.mpr (by decide +kernel)
  have hs : s.session.cwd.Obtained := Path.obtained_iff_valid.mpr (by decide +kernel)
  have ht : t.session.cwd.Obtained := Path.obtained_iff_valid.mpr (by decide +kernel)
  obtain ⟨⟨location, hlocated, -⟩, hsame⟩ := prompt_identifies hobtained hs
  exact ⟨hhome, by decide +kernel, by decide +kernel, hobtained, hs, ht, ⟨location, hlocated⟩,
    hsame t rfl rfl ht⟩

end Shell
end DevConsole
