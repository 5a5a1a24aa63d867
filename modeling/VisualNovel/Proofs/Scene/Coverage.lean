/-
  VisualNovel.Proofs.Scene.Coverage

  Which passages a reading on a terminal can come to. A session traverses only
  passages that links lead to from its start through passages that were shown
  (`Confined`), since the choices on screen are such links, also after a menu.
  The other way round, a chain of links through passages that are shown can be
  typed line by line (`Follows.exists_lines`). The search for reachable passages
  follows the links of menus as well. So it finds all that is ever traversed, and
  besides what lies behind the menus that a reading comes to: it is exact as long
  as those menus add nothing (`found_comesTo_iff`), but a passage linked from a
  menu only is found although no reading comes to it (`Story.detour`).
-/

import VisualNovel.Command.Check
import VisualNovel.Proofs.Scene.Reading
import VisualNovel.Store.Memory

namespace VisualNovel

open Time (Instant)

/-! ## Visits -/

namespace Turn

/-- The start of the latest session in some turns, latest first. -/
def started? : List Turn → Option StartVariant
  | [] => none
  | t :: ts =>
    match t.call with
    | .begin v => some v
    | .choose _ => started? ts

/-- The passages traversed in some turns, each with the start of its session. -/
def visits (story : Story) : List Turn → List (StartVariant × Passage)
  | [] => []
  | t :: ts =>
    match started? (t :: ts), t.passage? story with
    | some v, some p => (v, p) :: visits story ts
    | _, _ => visits story ts

end Turn

namespace Walk

/-- The start of the latest session. -/
def started? (w : Walk) : Option StartVariant :=
  Turn.started? w.turns

/-- The passages traversed, each with the start of its session, latest first. -/
def visits (story : Story) (w : Walk) : List (StartVariant × Passage) :=
  Turn.visits story w.turns

/-- The start of the session that a call belongs to. -/
def startedBy (w : Walk) : Session.Call → Option StartVariant
  | .begin v => some v
  | .choose _ => w.started?

variable {sc : Scenario} {w : Walk} {call : Session.Call} {now : Instant} {a : Arrival} {p : Passage}

theorem started?_of_ok (h : w.session.answer sc w.ledger call now = .ok a) :
    (w.call sc call now).started? = w.startedBy call := by
  rw [call_of_ok h]
  cases call <;> rfl

theorem visits_of_ok (h : w.session.answer sc w.ledger call now = .ok a)
    (hp : sc.story.get? (call.target sc.story) = some p) {v : StartVariant}
    (hv : w.startedBy call = some v) :
    (w.call sc call now).visits sc.story = (v, p) :: w.visits sc.story := by
  have hpassage : Turn.passage? sc.story ⟨call, .ok a.step⟩ = some p := hp
  have hstarted : Turn.started? (⟨call, .ok a.step⟩ :: w.turns) = some v := by
    rw [← hv]
    cases call <;> rfl
  rw [call_of_ok h, visits, Turn.visits, hstarted, hpassage]
  rfl

/-! ## Visits are led to -/

/-- All that a walk traversed is led to from the start of its session through passages that are shown. -/
structure Confined (story : Story) (w : Walk) : Prop where
  path : ∀ p ∈ w.path story, ∃ v, w.started? = some v ∧
    story.Leads Passage.isShown (story.startOf v) p.id
  visits : ∀ v p, (v, p) ∈ w.visits story → story.Leads Passage.isShown (story.startOf v) p.id
  /-- Nothing is traversed without a start. -/
  visited : w.visited story = (w.visits story).map Prod.snd

theorem confined_fresh (story : Story) (l : Ledger) : (fresh l).Confined story where
  path p hp := by cases hp
  visits v p hp := by cases hp
  visited := rfl

end Walk

namespace Controller

variable {τ : Type} {sc : Scenario} {c : Controller Terminal τ} {w : Walk} {choice : UserChoice}

/-- What the screen offers is led to from the start of its session. -/
theorem Follows.leads (h : c.Follows sc w) (hw : w.Confined sc.story) (hoffers : c.presenter.Offers choice)
    {p : Passage} (hp : sc.story.get? (choice.call.target sc.story) = some p) :
    ∃ v, w.startedBy choice.call = some v ∧
      sc.story.Leads Passage.isShown (sc.story.startOf v) p.id := by
  have hid := (Story.mem_of_get?_eq_some hp).2
  cases choice with
  | start v => exact ⟨v, rfl, hid ▸ .here⟩
  | restart => exact ⟨.default, rfl, hid ▸ .here⟩
  | passage id =>
    -- The choice is a link of a passage of the path that was shown.
    obtain ⟨-, item, hitem, rfl⟩ := hoffers
    rw [h.stands.shows.choices] at hitem
    obtain ⟨q, hq, hshown, l, hl, rfl⟩ := Screen.exists_link_of_mem_choices hitem
    obtain ⟨v, hv, hleads⟩ := hw.path q hq
    obtain ⟨id, hget⟩ := Walk.exists_get?_of_mem_path hq
    rw [(Story.mem_of_get?_eq_some hget).2] at hleads
    exact ⟨v, hv, hid ▸ hleads.link hget hshown hl⟩

/-- What the screen offers keeps the walk confined. -/
theorem Follows.confined_call (h : c.Follows sc w) (hw : w.Confined sc.story)
    (hoffers : c.presenter.Offers choice) (now : Instant) :
    (w.call sc choice.call now).Confined sc.story := by
  obtain ⟨p, hp, ha⟩ := h.answer hoffers now
  obtain ⟨v, hv, hleads⟩ := h.leads hw hoffers hp
  constructor
  case path =>
    intro q hq
    rw [Walk.path_of_ok ha hp] at hq
    rw [Walk.started?_of_ok ha]
    rcases List.mem_cons.1 hq with rfl | hq
    · exact ⟨v, hv, hleads⟩
    · cases choice with
      | start v => cases hq
      | restart => cases hq
      | passage id => exact hw.path q hq
  case visits =>
    intro v' q hq
    rw [Walk.visits_of_ok ha hp hv] at hq
    rcases List.mem_cons.1 hq with heq | hq
    · cases heq
      exact hleads
    · exact hw.visits v' q hq
  case visited => rw [Walk.visited_of_ok ha hp, Walk.visits_of_ok ha hp hv, hw.visited, List.map_cons]

end Controller

/-! ## The search and the play -/

namespace Story

/-- The search follows the links of all that is shown. -/
theorem follows_of_isShown (p : Passage) (h : p.isShown = true) : (!p.isEnding) = true := by
  rw [Passage.isEnding_eq_false_of_isShown h]
  rfl

/-- Menus are what the search follows and the play does not. -/
theorem isMenu_iff_follows {p : Passage} : p.isMenu = true ↔ (!p.isEnding) = true ∧ p.isShown = false := by
  rw [Passage.isMenu_iff, Bool.not_eq_true']

/-- The search finds what links lead to through passages that are shown, and what lies behind a menu there. -/
theorem mem_reachableFrom_iff_shown {s : Story} {v : StartVariant} {id : PassageId} :
    id ∈ s.reachableFrom (s.startOf v) ↔ s.Leads Passage.isShown (s.startOf v) id ∨
      ∃ m ∈ s.passages, m.isMenu = true ∧ s.Leads Passage.isShown (s.startOf v) m.id ∧
        ∃ l ∈ m.links, s.Leads (fun p => !p.isEnding) l.targetId id := by
  simp only [mem_reachableFrom_iff (s.startOf_isId v), isMenu_iff_follows]
  exact leads_iff_or_beyond follows_of_isShown

/-- What links lead to through passages that are shown is found by the search. -/
theorem mem_reachableFrom_of_leads {s : Story} {v : StartVariant} {id : PassageId}
    (h : s.Leads Passage.isShown (s.startOf v) id) : id ∈ s.reachableFrom (s.startOf v) :=
  mem_reachableFrom_iff_shown.2 (.inl h)

/-- The search finds no more than that exactly when the menus led to link to no more than that. -/
theorem forall_mem_reachableFrom_iff {s : Story} {v : StartVariant} :
    (∀ id ∈ s.reachableFrom (s.startOf v), s.Leads Passage.isShown (s.startOf v) id) ↔
      ∀ m ∈ s.passages, m.isMenu = true → s.Leads Passage.isShown (s.startOf v) m.id →
        ∀ l ∈ m.links, s.Leads Passage.isShown (s.startOf v) l.targetId := by
  simp only [mem_reachableFrom_iff (s.startOf_isId v), isMenu_iff_follows]
  exact forall_leads_iff follows_of_isShown

/-- The report is on the passages that are found from neither start, but for menus. -/
theorem mem_unreachable_iff {s : Story} {p : Passage} :
    p ∈ s.unreachable ↔
      p ∈ s.passages ∧ (∀ v, p.id ∉ s.reachableFrom (s.startOf v)) ∧ p.isMenu = false := by
  have hstarts : (∀ v, p.id ∉ s.reachableFrom (s.startOf v)) ↔
      p.id ∉ s.reachableFrom s.start ∧ p.id ∉ s.reachableFrom s.altStart := by
    constructor
    · exact fun h => ⟨h .default, h .alt⟩
    · rintro ⟨hdefault, halt⟩ (_ | _)
      · exact hdefault
      · exact halt
  have hmenu : p.isMenu = false ↔ p.outcome.map (·.category) ≠ some .menu := by
    rw [Passage.isMenu]
    cases p.outcome <;> simp
  rw [hstarts, hmenu, unreachable, List.mem_filter, decide_eq_true_eq, List.mem_append, not_or]

end Story

namespace Reading

variable {τ : Type} [LedgerStore τ] {sc : Scenario} {r : Reading τ}

theorem Follows.confined_after (h : r.Follows sc) (hw : r.walk.Confined sc.story)
    (lines : List (String × Instant)) : (r.after lines).walk.Confined sc.story :=
  (h.after (fun _ _ _ now hc hoffers hw => hc.confined_call hw hoffers now) hw lines).2

/--
**The report covers the play.** After any lines on a fresh terminal, every passage that was traversed
is reachable from the start of its session, so none of them is reported as unreachable.
-/
theorem reachable_of_visited (sc : Scenario) (assets : AssetManifest) (palette : Text.Palette) (store : τ)
    (ledger : Ledger) (now : Instant) (lines : List (String × Instant)) :
    let r := (opening (.onTerminal sc assets palette store ledger) now).after lines
    r.Follows sc ∧ r.walk.visited sc.story = (r.walk.visits sc.story).map Prod.snd ∧
      (∀ v p, (v, p) ∈ r.walk.visits sc.story → p.id ∈ sc.story.reachableFrom (sc.story.startOf v)) ∧
      ∀ p ∈ r.walk.visited sc.story, p ∉ sc.story.unreachable := by
  intro r
  obtain ⟨-, hopening⟩ := follows_onTerminal sc assets palette store ledger now
  have hconfined : r.walk.Confined sc.story :=
    hopening.confined_after (Walk.confined_fresh sc.story ledger) lines
  have hreached : ∀ v p, (v, p) ∈ r.walk.visits sc.story →
      p.id ∈ sc.story.reachableFrom (sc.story.startOf v) :=
    fun v p hp => Story.mem_reachableFrom_of_leads (hconfined.visits v p hp)
  refine ⟨hopening.follows_after lines, hconfined.visited, hreached, ?_⟩
  intro p hp
  rw [hconfined.visited] at hp
  obtain ⟨⟨v, q⟩, hq, rfl⟩ := List.mem_map.1 hp
  exact fun hreported => (Story.mem_unreachable_iff.1 hreported).2.1 v (hreached v q hq)

/-! ## Coming to a passage -/

/-- A reading that goes on and has just traversed the passage with an id, in a session from a start. -/
structure HasCome (sc : Scenario) (v : StartVariant) (id : PassageId) (r : Reading τ) : Prop where
  goes : r.isOver = false
  started : r.walk.started? = some v
  head : ∃ p rest, sc.story.get? id = some p ∧ r.walk.path sc.story = p :: rest ∧
    (v, p) ∈ r.walk.visits sc.story

/-- One line more comes to whatever the screen offers. -/
theorem Follows.exists_hasCome (h : r.Follows sc) (hgoes : r.isOver = false) {choice : UserChoice}
    (hoffers : r.play.presenter.Offers choice) (hlt : r.play.presenter.choices.length < UInt64.size)
    {v : StartVariant} (hv : r.walk.startedBy choice.call = some v) (now : Instant) :
    ∃ line, (r.read line now).HasCome sc v (choice.call.target sc.story) := by
  obtain ⟨line, hgoes', hwalk⟩ := h.exists_read hgoes hoffers hlt now
  obtain ⟨p, hp, ha⟩ := h.answer hoffers now
  refine ⟨line, hgoes', ?_, p, r.walk.pathOnto sc.story choice.call, hp, ?_, ?_⟩
  · rw [hwalk, Walk.started?_of_ok ha, hv]
  · rw [hwalk, Walk.path_of_ok ha hp]
  · rw [hwalk, Walk.visits_of_ok ha hp hv]
    exact List.mem_cons_self

/-- From the start screen one line comes to a start. -/
theorem Follows.exists_start (h : r.Follows sc) (hgoes : r.isOver = false)
    (hfresh : r.walk.path sc.story = []) (v : StartVariant) (now : Instant) :
    ∃ line, (r.read line now).HasCome sc v (sc.story.startOf v) := by
  have hshows := h.stands.shows
  rw [hfresh] at hshows
  have hoffers : r.play.presenter.Offers (.start v) := hshows.scene
  have hlt : r.play.presenter.choices.length < UInt64.size := by
    rw [hshows.choices]
    decide
  exact h.exists_hasCome hgoes hoffers hlt rfl now

/-- From a passage that is shown one line more comes to the target of any of its links. -/
theorem HasCome.exists_next {v : StartVariant} {id : PassageId} {p : Passage} {l : Link}
    (hcome : r.HasCome sc v id) (h : r.Follows sc) (hp : sc.story.get? id = some p)
    (hshown : p.isShown = true) (hl : l ∈ p.links) (hlinks : p.links.length < UInt64.size)
    (now : Instant) : ∃ line, (r.read line now).HasCome sc v l.targetId := by
  obtain ⟨q, rest, hq, hpath, -⟩ := hcome.head
  rw [hp] at hq
  cases hq
  -- The passage was traversed last, so its links are on screen.
  have hshows := h.stands.shows
  rw [hpath, Screen.after_of_isShown hshown] at hshows
  have hoffers : r.play.presenter.Offers (.passage l.targetId) := by
    refine ⟨hshows.scene, l.choice, ?_, rfl⟩
    rw [hshows.choices]
    exact List.mem_map_of_mem hl
  have hlt : r.play.presenter.choices.length < UInt64.size := by
    rw [hshows.choices, List.length_map]
    exact hlinks
  exact h.exists_hasCome hcome.goes hoffers hlt hcome.started now

/-- **Chains of links can be typed.** To where links lead through passages that are shown, lines come. -/
theorem Follows.exists_lines (h : r.Follows sc) (hgoes : r.isOver = false)
    (hfresh : r.walk.path sc.story = [])
    (hlinks : ∀ p ∈ sc.story.passages, p.links.length < UInt64.size) (now : Instant)
    {v : StartVariant} {id : PassageId}
    (hleads : sc.story.Leads Passage.isShown (sc.story.startOf v) id) :
    ∃ lines : List String, (r.after (lines.map fun l => (l, now))).HasCome sc v id := by
  -- By induction on the chain: each link is one line more than its passage took.
  induction hleads with
  | here =>
    obtain ⟨line, hcome⟩ := h.exists_start hgoes hfresh v now
    exact ⟨[line], hcome⟩
  | link _ hp hshown hl ih =>
    obtain ⟨lines, hcome⟩ := ih
    have hlt := hlinks _ (Story.mem_passages_of_get? hp)
    obtain ⟨line, hcome'⟩ := hcome.exists_next (h.follows_after _) hp hshown hl hlt now
    refine ⟨lines ++ [line], ?_⟩
    rw [List.map_append, Reading.after, List.foldl_append]
    exact hcome'

/-- In sessions from a start some lines come to the passage with an id. -/
def ComesTo (r : Reading τ) (story : Story) (now : Instant) (v : StartVariant) (id : PassageId) : Prop :=
  ∃ lines : List String, ∃ p, p.id = id ∧
    (v, p) ∈ (r.after (lines.map fun l => (l, now))).walk.visits story

/-- Where lines come to a menu, they come to all that it links to. -/
def MenusAddNothing (r : Reading τ) (story : Story) (now : Instant) (v : StartVariant) : Prop :=
  ∀ m ∈ story.passages, m.isMenu = true → r.ComesTo story now v m.id →
    ∀ l ∈ m.links, r.ComesTo story now v l.targetId

/-- **What a reading can come to.** It is what links lead to through passages that are shown. -/
theorem Follows.comesTo_iff_leads (h : r.Follows sc) (hw : r.walk.Confined sc.story)
    (hgoes : r.isOver = false) (hfresh : r.walk.path sc.story = [])
    (hlinks : ∀ p ∈ sc.story.passages, p.links.length < UInt64.size) (now : Instant)
    (v : StartVariant) (id : PassageId) :
    r.ComesTo sc.story now v id ↔ sc.story.Leads Passage.isShown (sc.story.startOf v) id := by
  constructor
  · rintro ⟨lines, p, rfl, hvisit⟩
    exact (h.confined_after hw (lines.map fun l => (l, now))).visits v p hvisit
  · intro hleads
    obtain ⟨lines, hcome⟩ := h.exists_lines hgoes hfresh hlinks now hleads
    obtain ⟨p, rest, hp, -, hvisit⟩ := hcome.head
    exact ⟨lines, p, (Story.mem_of_get?_eq_some hp).2, hvisit⟩

/--
**What the search finds.** Lines come to a passage exactly when links lead to it through passages that
are shown. The search finds these passages and those behind a menu that lines come to, and no others.
So lines come to all that is found exactly when menus add nothing. If that is so from both starts, a
passage that is not reported is a menu, or lines come to it.
-/
theorem found_comesTo_iff {sc : Scenario}
    (hlinks : ∀ p ∈ sc.story.passages, p.links.length < UInt64.size) (assets : AssetManifest)
    (palette : Text.Palette) (store : τ) (ledger : Ledger) (now : Instant) :
    let r := opening (.onTerminal sc assets palette store ledger) now
    (∀ v id, r.ComesTo sc.story now v id ↔ sc.story.Leads Passage.isShown (sc.story.startOf v) id) ∧
    (∀ v id, id ∈ sc.story.reachableFrom (sc.story.startOf v) ↔ r.ComesTo sc.story now v id ∨
      ∃ m ∈ sc.story.passages, m.isMenu = true ∧ r.ComesTo sc.story now v m.id ∧
        ∃ l ∈ m.links, sc.story.Leads (fun p => !p.isEnding) l.targetId id) ∧
    (∀ v, (∀ id ∈ sc.story.reachableFrom (sc.story.startOf v), r.ComesTo sc.story now v id) ↔
      r.MenusAddNothing sc.story now v) ∧
    ((∀ v, r.MenusAddNothing sc.story now v) →
      ∀ p ∈ sc.story.passages, p ∉ sc.story.unreachable →
        p.isMenu = true ∨ ∃ v, r.ComesTo sc.story now v p.id) := by
  intro r
  obtain ⟨hgoes, hopening⟩ := follows_onTerminal sc assets palette store ledger now
  have hcomes : ∀ v id, r.ComesTo sc.story now v id ↔
      sc.story.Leads Passage.isShown (sc.story.startOf v) id :=
    hopening.comesTo_iff_leads (Walk.confined_fresh sc.story ledger) hgoes rfl hlinks now
  have hall : ∀ v, (∀ id ∈ sc.story.reachableFrom (sc.story.startOf v), r.ComesTo sc.story now v id) ↔
      r.MenusAddNothing sc.story now v := by
    intro v
    simp only [MenusAddNothing, hcomes]
    exact Story.forall_mem_reachableFrom_iff
  refine ⟨hcomes, ?_, hall, ?_⟩
  · intro v id
    simp only [hcomes]
    exact Story.mem_reachableFrom_iff_shown
  · intro hmenus p hp hunreported
    by_contra! hnone
    have hunseen : ∀ v, p.id ∉ sc.story.reachableFrom (sc.story.startOf v) :=
      fun v hv => hnone.2 v ((hall v).2 (hmenus v) p.id hv)
    exact hunreported (Story.mem_unreachable_iff.2 ⟨hp, hunseen, Bool.eq_false_of_not_eq_true hnone.1⟩)

end Reading

/-! ## Behind a menu -/

namespace Passage

def fork : Passage where
  id := 1
  name := "Fork"
  text := "Which way?"
  tags := .empty
  links := [⟨"Options", "Options", 2⟩]

def options : Passage where
  id := 2
  name := "Options"
  text := ""
  tags := .ofNames ["Menu-page"]
  links := [⟨"Garden", "Garden", 3⟩]

def garden : Passage where
  id := 3
  name := "Garden"
  text := "Flowers."
  tags := .empty
  links := []

/-- As the fork, with a way past the menu. -/
def crossing : Passage :=
  { fork with links := [⟨"Options", "Options", 2⟩, ⟨"Garden", "Garden", 3⟩] }

end Passage

/-- A story whose garden is linked from a menu only. -/
def Story.detour : Story where
  passages := [.fork, .options, .garden]
  start := 1
  altStart := 1
  isDense := by decide
  start_isId := by decide
  altStart_isId := by decide
  link_isId := by decide

def Scenario.detour : Scenario where
  story := .detour
  assets := ⟨.empty, .empty⟩
  config := {}

/-- A story whose garden is linked from a menu, and also from a passage that is shown. -/
def Story.shortcut : Story where
  passages := [.crossing, .options, .garden]
  start := 1
  altStart := 1
  isDense := by decide
  start_isId := by decide
  altStart_isId := by decide
  link_isId := by decide

def Scenario.shortcut : Scenario :=
  { Scenario.detour with story := .shortcut }

/-- A play of the story with the detour that has not been started. -/
def Controller.detour : Controller Terminal MemoryStore :=
  .onTerminal .detour .empty .plain .empty (.ofStory .detour)

namespace Story

theorem get?_fork : detour.get? 1 = some .fork := rfl

theorem get?_options : detour.get? 2 = some .options := rfl

/-- Links of shown passages lead no further than to the menu. -/
theorem eq_of_leads_detour {id : PassageId}
    (h : detour.Leads Passage.isShown (detour.startOf .default) id) : id = 1 ∨ id = 2 := by
  induction h with
  | here => exact .inl rfl
  | link _ hp hshown hl ih =>
    rcases ih with rfl | rfl
    · rw [get?_fork] at hp
      cases hp
      rw [List.mem_singleton.1 hl]
      exact .inr rfl
    · -- The menu itself is not shown.
      rw [get?_options] at hp
      cases hp
      cases hshown

end Story

namespace Reading

/-- With the way past the menu, lines come to all that is found, also to the passage that the menu links to. -/
theorem found_comesTo_iff_shortcut :
    let now : Instant := .newYear
    let r := opening (.onTerminal .shortcut .empty .plain MemoryStore.empty (.ofStory .shortcut)) now
    (∀ p ∈ Story.shortcut.passages, p.links.length < UInt64.size) ∧
      (∀ id ∈ Story.shortcut.reachableFrom (Story.shortcut.startOf .default),
        r.ComesTo Story.shortcut now .default id) ∧
      (3 : PassageId) ∈ Story.shortcut.reachableFrom (Story.shortcut.startOf .default) := by
  intro now r
  have hlinks : ∀ p ∈ Scenario.shortcut.story.passages, p.links.length < UInt64.size := by decide
  obtain ⟨hcomes, hfound, hall, -⟩ :=
    found_comesTo_iff hlinks .empty .plain MemoryStore.empty (.ofStory .shortcut) now
  have hstart : Story.shortcut.get? 1 = some .crossing := rfl
  have hmenu : r.ComesTo Story.shortcut now .default 2 :=
    (hcomes .default 2).2 (.link .here hstart rfl List.mem_cons_self)
  have hgarden : r.ComesTo Story.shortcut now .default 3 :=
    (hcomes .default 3).2 (.link .here hstart rfl (List.mem_cons_of_mem _ List.mem_cons_self))
  have hmenus : r.MenusAddNothing Story.shortcut now .default := by
    intro m hm hismenu _ l hl
    have honly : ∀ m ∈ Story.shortcut.passages, m.isMenu = true → ∀ l ∈ m.links, l.targetId = 3 := by
      decide +kernel
    rw [honly m hm hismenu l hl]
    exact hgarden
  refine ⟨hlinks, (hall .default).2 hmenus, (hfound .default 3).2 (.inr ?_)⟩
  exact ⟨.options, List.mem_cons_of_mem _ List.mem_cons_self, rfl, hmenu, _, List.mem_cons_self, .here⟩

/-- The search finds the passage behind the menu, but no reading comes to it. -/
theorem garden_found_but_never_visited :
    (3 : PassageId) ∈ Story.detour.reachableFrom (Story.detour.startOf .default) ∧
      ¬ ∃ (now : Instant) (lines : List (String × Instant)) (p : Passage), p.id = 3 ∧
        (.default, p) ∈ ((opening .detour now).after lines).walk.visits Story.detour := by
  constructor
  · rw [Story.mem_reachableFrom_iff (Story.detour.startOf_isId .default)]
    have hmenu : Story.detour.Leads (fun p => !p.isEnding) (Story.detour.startOf .default) 2 :=
      .link .here Story.get?_fork rfl List.mem_cons_self
    exact hmenu.link Story.get?_options rfl List.mem_cons_self
  · rintro ⟨now, lines, p, hid, hvisit⟩
    obtain ⟨-, hopening⟩ :=
      follows_onTerminal Scenario.detour .empty .plain MemoryStore.empty (.ofStory .detour) now
    have hconfined := hopening.confined_after (Walk.confined_fresh Story.detour _) lines
    have hleads := hconfined.visits .default p hvisit
    rw [hid] at hleads
    rcases Story.eq_of_leads_detour hleads with h | h
    · cases h
    · cases h

end Reading

end VisualNovel
