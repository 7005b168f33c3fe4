import SeedShell.Proofs.Soundness
import SeedShell.Terminal

/-!
# The prompt on the page

A page that shows the prompt keeps a copy of it and replaces the copy whenever it is told of a new
one. Only typed lines and launches can change the prompt, and after each of them the page is told
if, and only if, it has changed. So the copy is never stale on a page that can be told at all; on
one that takes no news it is.
-/

namespace SeedShell.Proofs

/-! ### What happens on a page -/

/-- The page asks its terminal for something, or changes what it does with news. -/
inductive PageStep where
  | submit (line : String)
  | launch
  | complete (buffer : String) (cursor now : Nat)
  | back
  | forward
  | lastArgument
  | alter (f : Page → Page)

/-- The response to a step, if there is one, and the terminal after it. -/
def takeStep (t : Terminal) : PageStep → Option Response × Terminal
  | .submit line => (t.submit line).map some id
  | .launch => t.launch.map some id
  | .complete buffer cursor now => (none, (t.complete buffer cursor now).2)
  | .back => (none, t.back.2)
  | .forward => (none, t.forward.2)
  | .lastArgument => (none, t.lastArgument.2)
  | .alter f => (none, t.alterPage f)

/-- What the page is told in a step. -/
def toldIn (t : Terminal) (step : PageStep) : List Notice :=
  (takeStep t step).1.elim [] Response.notices

def takeSteps (t : Terminal) : List PageStep → Terminal
  | [] => t
  | step :: steps => takeSteps (takeStep t step).2 steps

/-- All that the page is told in some steps. -/
def toldInAll (t : Terminal) : List PageStep → List Notice
  | [] => []
  | step :: steps => toldIn t step ++ toldInAll (takeStep t step).2 steps

/-- The prompt that a notice brings. -/
def promptOf : Notice → String
  | .listener prompt => prompt
  | .window prompt => prompt
  | .document prompt => prompt

/-- The copy of a page after some notices, each of which replaces it. -/
def copyAfter (copy : String) (notices : List Notice) : String :=
  notices.foldl (fun _ notice => promptOf notice) copy

/-! ### Pages that can be told -/

/-- The page has a window, and its function takes news or an event comes through to one of its
targets. -/
def CanBeTold (p : Page) : Prop :=
  p.hasWindow = true ∧ (p.listener = .takes ∨
    p.makesEvents = true ∧ (p.windowTakesEvents = true ∨
      p.hasDocument = true ∧ p.documentTakesEvents = true))

instance (p : Page) : Decidable (CanBeTold p) := inferInstanceAs (Decidable (_ ∧ _))

/-- The event for a new prompt, at the targets that take it: the window and then the document. -/
def eventNotices (p : Page) (prompt : String) : List Notice :=
  (if p.windowTakesEvents then [.window prompt] else []) ++
    (if p.hasDocument && p.documentTakesEvents then [.document prompt] else [])

/-- A new prompt comes to the page in one of two ways: its function takes it, or there is no
function that does, and one event brings it. -/
inductive Delivered (p : Page) (prompt : String) : List Notice → Prop
  | taken : p.listener = .takes → Delivered p prompt [.listener prompt]
  | absent : p.listener = .absent → eventNotices p prompt ≠ [] →
    Delivered p prompt (eventNotices p prompt)
  | failed : p.listener = .fails → eventNotices p prompt ≠ [] →
    Delivered p prompt (.listener prompt :: eventNotices p prompt)

section Delivering

variable {p : Page} {prompt : String}

lemma delivered_announce (h : CanBeTold p) : Delivered p prompt (p.announce prompt) := by
  obtain ⟨hwindow, htold⟩ := h
  have hevent : p.listener ≠ .takes → p.dispatch prompt = eventNotices p prompt ∧
      eventNotices p prompt ≠ [] := by
    intro hlistener
    obtain ⟨hmakes, htakes⟩ := htold.resolve_left hlistener
    refine ⟨if_pos hmakes, ?_⟩
    rcases htakes with hwindow | ⟨hdocument, htakes⟩
    · simp [eventNotices, hwindow]
    · simp [eventNotices, hdocument, htakes]
  unfold Page.announce
  rw [if_pos hwindow]
  cases hlistener : p.listener with
  | takes => exact .taken hlistener
  | fails =>
    obtain ⟨hdispatch, hsome⟩ := hevent (by simp [hlistener])
    dsimp only
    rw [hdispatch]
    exact .failed hlistener hsome
  | absent =>
    obtain ⟨hdispatch, hsome⟩ := hevent (by simp [hlistener])
    dsimp only
    rw [hdispatch]
    exact .absent hlistener hsome

variable {notices : List Notice}

lemma Delivered.ne_nil (h : Delivered p prompt notices) : notices ≠ [] := by
  cases h with
  | taken hlistener => exact List.cons_ne_nil _ _
  | absent hlistener hsome => exact hsome
  | failed hlistener hsome => exact List.cons_ne_nil _ _

lemma promptOf_of_mem_eventNotices {notice : Notice} (h : notice ∈ eventNotices p prompt) :
    promptOf notice = prompt := by
  rcases List.mem_append.mp h with h | h
  · split at h
    · rw [List.mem_singleton.mp h, promptOf]
    · cases h
  · split at h
    · rw [List.mem_singleton.mp h, promptOf]
    · cases h

lemma Delivered.promptOf_eq (h : Delivered p prompt notices) {notice : Notice}
    (hmem : notice ∈ notices) : promptOf notice = prompt := by
  cases h with
  | taken hlistener => rw [List.mem_singleton.mp hmem, promptOf]
  | absent hlistener hsome => exact promptOf_of_mem_eventNotices hmem
  | failed hlistener hsome =>
    rcases List.mem_cons.mp hmem with rfl | hmem
    · rfl
    · exact promptOf_of_mem_eventNotices hmem

lemma copyAfter_of_forall (copy : String) (hsome : notices ≠ [])
    (h : ∀ notice ∈ notices, promptOf notice = prompt) : copyAfter copy notices = prompt := by
  have hlast : notices = notices.dropLast ++ [notices.getLast hsome] :=
    (List.dropLast_append_getLast hsome).symm
  rw [hlast, copyAfter, List.foldl_append]
  exact h _ (List.getLast_mem hsome)

lemma copyAfter_append (copy : String) (before behind : List Notice) :
    copyAfter copy (before ++ behind) = copyAfter (copyAfter copy before) behind :=
  List.foldl_append

end Delivering

/-! ### What a step tells -/

/-- The page is the same up to the texts that it keeps. -/
def SamePage (p p' : Page) : Prop := ∃ kept, p' = { p with kept }

namespace SamePage

variable {p p' : Page} (h : SamePage p p')
include h

lemma canBeTold_iff : CanBeTold p' ↔ CanBeTold p := by
  obtain ⟨kept, rfl⟩ := h
  rfl

lemma announce_eq (prompt : String) : p'.announce prompt = p.announce prompt := by
  obtain ⟨kept, rfl⟩ := h
  rfl

end SamePage

lemma samePage_insert {p : Page} {store : PageStore} (h : SamePage p store.page)
    (key value : String) : SamePage p (KeyValueStore.insert store key value).2.page := by
  obtain ⟨kept, hpage⟩ := h
  have hinsert : KeyValueStore.insert store key value =
      store.change (.notKept key) (·.insert key value) := rfl
  rw [hinsert, PageStore.change]
  split
  · exact ⟨kept, hpage⟩
  · split
    · exact ⟨kept, hpage⟩
    · exact ⟨_, by rw [hpage]⟩

lemma kept_samePage (p : Page) :
    Kept fun _ (s : Session PageStore) => SamePage p s.store.page where
  commands := by
    intro b s e s' h heffect
    cases heffect with
    | nothing => exact h
    | place hplace hdir => exact samePage_insert h _ _
    | user user => exact samePage_insert h _ _
    | cleared => exact samePage_insert h _ _
    | erased herased => exact samePage_insert h _ _
  record := by
    intro b s h line
    unfold Session.record
    split
    · exact samePage_insert h _ _
    · exact h
  move h _ := h

lemma of_map_eq_ok {ε α β : Type} {f : α → β} {x : Except ε α} {b : β} (h : x.map f = .ok b) :
    ∃ a, x = .ok a ∧ f a = b := by
  cases x with
  | error e => cases h
  | ok a => exact ⟨a, rfl, Except.ok.inj h⟩

lemma samePage_onPage {p : Page} {render : String → String} {t : Terminal}
    (h : Terminal.onPage p render = .ok t) : SamePage p t.page := by
  obtain ⟨sh, hboot, rfl⟩ := of_map_eq_ok h
  obtain ⟨base, -, rfl⟩ := boot_eq_ok_iff.mp hboot
  have hstore : SamePage p (PageStore.ofPage p).page := by
    unfold PageStore.ofPage PageStore.ofPage?
    split <;> exact ⟨p.kept, rfl⟩
  -- the start writes at most the place that it falls back to
  have hplace : ∀ tree user,
      SamePage p (Session.restorePlace tree user (PageStore.ofPage p)).2.page := by
    intro tree user
    unfold Session.restorePlace
    split
    · exact hstore
    · exact samePage_insert hstore _ _
  exact hplace _ _

section Steps

variable {t : Terminal}

lemma submit_eq_respond (line : String) : t.submit line =
    Terminal.respond t.prompt (t.shell.submit line).1 (t.shell.submit line).2 := by
  rw [Terminal.submit]

lemma launch_eq_respond : t.launch =
    Terminal.respond t.prompt (t.shell.launch (Terminal.postParameter t.page)).1
      (t.shell.launch (Terminal.postParameter t.page)).2 := by
  rw [Terminal.launch]

variable (t) in
/-- A step either leaves the prompt as it is and is not answered, or a shell that is on the same
page answers it. -/
lemma takeStep_cases (step : PageStep) :
    ((takeStep t step).1 = none ∧ (takeStep t step).2.prompt = t.prompt ∧
        ((∃ f, step = .alter f) ∨ (takeStep t step).2.page = t.page)) ∨
      ∃ events shell, SamePage t.page shell.session.store.page ∧
        takeStep t step = (Terminal.respond t.prompt events shell).map some id := by
  have hself : SamePage t.page t.shell.session.store.page := ⟨t.page.kept, rfl⟩
  cases step with
  | submit line =>
    have hkept := (kept_samePage t.page).submit t.shell (b := false) hself line
    rw [takeStep, submit_eq_respond]
    generalize t.shell.submit line = answer at hkept ⊢
    exact .inr ⟨answer.1, answer.2, hkept, rfl⟩
  | launch =>
    have hkept := (kept_samePage t.page).launch t.shell (b := false) hself
      (Terminal.postParameter t.page)
    rw [takeStep, launch_eq_respond]
    generalize t.shell.launch (Terminal.postParameter t.page) = answer at hkept ⊢
    exact .inr ⟨answer.1, answer.2, hkept, rfl⟩
  | complete buffer cursor now => exact .inl ⟨rfl, rfl, .inr rfl⟩
  | back => exact .inl ⟨rfl, rfl, .inr rfl⟩
  | forward => exact .inl ⟨rfl, rfl, .inr rfl⟩
  | lastArgument => exact .inl ⟨rfl, rfl, .inr rfl⟩
  | alter f => exact .inl ⟨rfl, rfl, .inl ⟨f, rfl⟩⟩

variable (t) in
/-- The page is told of the prompt after a step, unless that is the one before. -/
lemma toldIn_eq (step : PageStep) : toldIn t step =
    if (takeStep t step).2.prompt = t.prompt then []
    else t.page.announce (takeStep t step).2.prompt := by
  rw [toldIn]
  rcases takeStep_cases t step with ⟨hnone, hprompt, -⟩ | ⟨events, shell, hpage, hstep⟩
  · rw [hnone, if_pos hprompt, Option.elim_none]
  · rw [hstep, ← hpage.announce_eq]
    rfl

lemma prompt_of_response {step : PageStep} {response : Response}
    (h : (takeStep t step).1 = some response) :
    response.prompt = (takeStep t step).2.prompt := by
  rcases takeStep_cases t step with ⟨hnone, -⟩ | ⟨events, shell, -, hstep⟩
  · rw [hnone] at h
    cases h
  · rw [hstep] at h ⊢
    obtain rfl := Option.some.inj h
    rfl

/-- A page that can be told is told in a step of the new prompt, or of nothing if it is the old
one. -/
structure Informs (t : Terminal) (step : PageStep) : Prop where
  response : ∀ response, (takeStep t step).1 = some response →
    response.prompt = (takeStep t step).2.prompt
  told_iff : toldIn t step ≠ [] ↔ (takeStep t step).2.prompt ≠ t.prompt
  delivered : toldIn t step ≠ [] →
    Delivered t.page (takeStep t step).2.prompt (toldIn t step)

lemma informs (h : CanBeTold t.page) (step : PageStep) : Informs t step := by
  have hdelivered : Delivered t.page (takeStep t step).2.prompt
      (t.page.announce (takeStep t step).2.prompt) := delivered_announce h
  refine ⟨fun response hresponse => prompt_of_response hresponse, ?_, ?_⟩
  · rw [toldIn_eq]
    split
    · next hsame => exact ⟨fun hne => absurd rfl hne, fun hne => absurd hsame hne⟩
    · next hne => exact ⟨fun _ => hne, fun _ => hdelivered.ne_nil⟩
  · rw [toldIn_eq]
    split
    · intro hne
      exact absurd rfl hne
    · intro _
      exact hdelivered

/-- A step leaves a page that can be told, if it does not itself make the page deaf. -/
lemma canBeTold_takeStep (h : CanBeTold t.page) {step : PageStep}
    (halter : ∀ f, step = .alter f → ∀ p, CanBeTold p → CanBeTold (f p)) :
    CanBeTold (takeStep t step).2.page := by
  rcases takeStep_cases t step with ⟨-, -, ⟨f, rfl⟩ | hpage⟩ | ⟨events, shell, hpage, hstep⟩
  · exact halter f rfl _ h
  · rw [hpage]
    exact h
  · rw [hstep]
    exact hpage.canBeTold_iff.mpr h

end Steps

/-! ### Runs -/

/-- The page stays one that can be told, whatever it changes. -/
def StaysTold (steps : List PageStep) : Prop :=
  ∀ f, PageStep.alter f ∈ steps → ∀ p, CanBeTold p → CanBeTold (f p)

section Runs

variable {t : Terminal}

lemma canBeTold_takeSteps (h : CanBeTold t.page) {steps : List PageStep}
    (hsteps : StaysTold steps) : CanBeTold (takeSteps t steps).page := by
  induction steps generalizing t with
  | nil => exact h
  | cons step steps ih =>
    apply ih
    · apply canBeTold_takeStep h
      intro f hstep
      exact hsteps f (hstep ▸ List.mem_cons_self)
    · intro f hmem
      exact hsteps f (List.mem_cons_of_mem step hmem)

lemma copyAfter_toldIn {step : PageStep} (h : Informs t step) :
    copyAfter t.prompt (toldIn t step) = (takeStep t step).2.prompt := by
  by_cases htold : toldIn t step = []
  · have hsame : (takeStep t step).2.prompt = t.prompt := by
      by_contra hne
      exact h.told_iff.mpr hne htold
    rw [htold, hsame]
    rfl
  · have hdelivered := h.delivered htold
    exact copyAfter_of_forall _ htold fun _ hmem => hdelivered.promptOf_eq hmem

lemma copyAfter_toldInAll (h : CanBeTold t.page) {steps : List PageStep}
    (hsteps : StaysTold steps) :
    copyAfter t.prompt (toldInAll t steps) = (takeSteps t steps).prompt := by
  induction steps generalizing t with
  | nil => rfl
  | cons step steps ih =>
    have hfirst := copyAfter_toldIn (informs h step)
    have htold : CanBeTold (takeStep t step).2.page := by
      apply canBeTold_takeStep h
      intro f hstep
      exact hsteps f (hstep ▸ List.mem_cons_self)
    have hrest := ih htold fun f hmem => hsteps f (List.mem_cons_of_mem step hmem)
    rw [toldInAll, copyAfter_append, hfirst, hrest, takeSteps]

/-- On a page that can be told, the copy of the prompt is the prompt after every run. Each step
tells the page of a new prompt exactly if there is one, once and in one way, and each response
carries the prompt as it is then. -/
theorem page_copy_is_fresh (h : CanBeTold t.page) {steps : List PageStep}
    (hsteps : StaysTold steps) :
    copyAfter t.prompt (toldInAll t steps) = (takeSteps t steps).prompt ∧
      ∀ step, Informs (takeSteps t steps) step :=
  ⟨copyAfter_toldInAll h hsteps, informs (canBeTold_takeSteps h hsteps)⟩

/-- The root is entered and the user switched, and in between the page gets a function for news
and no more events. -/
def switchingSteps : List PageStep :=
  [.submit "cd /", .alter fun p => { p with listener := .takes, makesEvents := false },
    .submit "su - ada"]

theorem page_copy_is_fresh_switching : ∃ t, Terminal.onPage {} id = .ok t ∧
    CanBeTold t.page ∧ StaysTold switchingSteps ∧ t.prompt = "earentir@hera:~$ " ∧
      copyAfter t.prompt (toldInAll t switchingSteps) = "ada@hera:/$ " ∧
      ∀ step, Informs (takeSteps t switchingSteps) step := by
  have hprompts : (Terminal.onPage {} id).map (fun t =>
      (t.prompt, (takeSteps t switchingSteps).prompt)) =
        .ok ("earentir@hera:~$ ", "ada@hera:/$ ") := by decide +kernel
  obtain ⟨t, hterminal, hboth⟩ := of_map_eq_ok hprompts
  obtain ⟨hbefore, hafter⟩ := Prod.mk.inj hboth
  have htold : CanBeTold t.page := (samePage_onPage hterminal).canBeTold_iff.mpr (by decide)
  have hsteps : StaysTold switchingSteps := by
    intro f hmem p hp
    obtain rfl : f = fun p => { p with listener := .takes, makesEvents := false } := by
      simpa [switchingSteps] using hmem
    exact ⟨hp.1, .inl rfl⟩
  obtain ⟨hcopy, hinforms⟩ := page_copy_is_fresh htold hsteps
  exact ⟨t, hterminal, htold, hsteps, hbefore, hcopy.trans hafter, hinforms⟩

end Runs

/-- A page without a function for news that no event comes through to is told nothing. -/
lemma announce_of_not_canBeTold {p : Page} (hlistener : p.listener = .absent)
    (h : ¬CanBeTold p) (prompt : String) : p.announce prompt = [] := by
  unfold Page.announce
  split
  · next hwindow =>
    have htold : ¬(p.makesEvents = true ∧ (p.windowTakesEvents = true ∨
        p.hasDocument = true ∧ p.documentTakesEvents = true)) := by
      intro hevents
      exact h ⟨hwindow, .inr hevents⟩
    rw [hlistener]
    dsimp only
    unfold Page.dispatch
    split
    · next hmakes =>
      have htargets : ¬(p.windowTakesEvents = true ∨
          p.hasDocument = true ∧ p.documentTakesEvents = true) := fun htakes => htold ⟨hmakes, htakes⟩
      obtain ⟨hwindow, hdocument⟩ := not_or.mp htargets
      simp [hwindow, hdocument]
    · rfl
  · rfl

/-- A page on which no event can be made, and that has no function to take news. -/
def deafPage : Page := { makesEvents := false }

/-- The root is entered on a page that can be told of nothing, and its copy of the prompt stays as
it was. -/
theorem deaf_page_copy_is_stale : deafPage.hasWindow = true ∧
    ∃ t, Terminal.onPage deafPage id = .ok t ∧ t.prompt = "earentir@hera:~$ " ∧
      (takeSteps t [.submit "cd /"]).prompt = "earentir@hera:/$ " ∧
      toldInAll t [.submit "cd /"] = [] ∧
      copyAfter t.prompt (toldInAll t [.submit "cd /"]) = "earentir@hera:~$ " := by
  have hprompts : (Terminal.onPage deafPage id).map (fun t =>
      (t.prompt, (takeSteps t [.submit "cd /"]).prompt)) =
        .ok ("earentir@hera:~$ ", "earentir@hera:/$ ") := by decide +kernel
  obtain ⟨t, hterminal, hboth⟩ := of_map_eq_ok hprompts
  obtain ⟨hbefore, hafter⟩ := Prod.mk.inj hboth
  have hpage : SamePage deafPage t.page := samePage_onPage hterminal
  have hnone : ∀ prompt, t.page.announce prompt = [] := by
    intro prompt
    have hdeaf : ¬CanBeTold deafPage := by decide
    rw [hpage.announce_eq]
    exact announce_of_not_canBeTold rfl hdeaf prompt
  have htold : toldInAll t [.submit "cd /"] = [] := by
    rw [toldInAll, toldIn_eq, hnone, ite_self]
    rfl
  refine ⟨rfl, t, hterminal, hbefore, hafter, htold, ?_⟩
  rw [htold, hbefore]
  rfl

end SeedShell.Proofs
