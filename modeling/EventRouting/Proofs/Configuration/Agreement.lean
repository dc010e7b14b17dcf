import EventRouting.Proofs.Configuration.Written

set_option autoImplicit false

namespace EventRouting

namespace Workspace

open EventRouting.Configuration

variable {work : Workspace}

/-- Sessions that subscribe to the same in the same order are the same while their rules are in use. -/
theorem Sound.sessions_eq (sound : work.Sound) {sessions others : List Session}
    (live : ∀ session ∈ sessions, work.Live (.rule session.rule))
    (otherLive : ∀ session ∈ others, work.Live (.rule session.rule))
    (same : sessions.map Session.subscription = others.map Session.subscription) : sessions = others := by
  induction sessions generalizing others with
  | nil => exact (List.map_eq_nil_iff.1 same.symm).symm
  | cons session rest ih =>
    cases others with
    | nil => contradiction
    | cons other others =>
      rw [List.forall_mem_cons] at live otherLive
      obtain ⟨here, later⟩ := List.cons.inj same
      obtain ⟨source, destination, rule⟩ := Subscription.mk.inj here
      have one : session.rule = other.rule := sound.canonical_injective live.1 otherLive.1 rule
      have equal : session = other := by
        cases session
        cases other
        exact Session.mk.injEq .. ▸ ⟨source, destination, one⟩
      rw [equal, ih live.2 otherLive.2 later]

/-- What is built from plans subscribes to what they say, and is in use at the end with all that was
before. -/
theorem Sound.plans_built (sound : work.Sound) (told : work.Told) (plans : List SessionPlan) :
    ∃ after, Run work after ∧ after.store = (SessionPlan.buildAll plans work.store).2 ∧
      (SessionPlan.buildAll plans work.store).1.map Session.subscription =
        plans.map SessionPlan.subscription ∧
      (∀ session ∈ (SessionPlan.buildAll plans work.store).1, after.Live (.rule session.rule)) ∧
      ∀ node, work.Live node → after.Live node := by
  induction plans generalizing work with
  | nil =>
    exact ⟨work, .refl, rfl, rfl, fun session inside => absurd inside List.not_mem_nil, fun _ => id⟩
  | cons plan rest ih =>
    obtain ⟨between, run, store, form, built, kept⟩ := sound.built told (plan.rule.getD .anything)
    have soundBetween := run.sound sound
    obtain ⟨after, more, last, subscribed, live, later⟩ := ih soundBetween (run.told sound told)
    have canonical : ((plan.rule.getD .anything).build work.store).1.canonical =
        (plan.rule.getD .anything).canonical := by
      apply Expression.canonical_eq_iff.2
      exact Form.same_trans (Form.same_symm (soundBetween.form_expression built)) form
    rw [store] at last subscribed live
    refine ⟨after, run.trans more, last, ?_, ?_, fun node before => later node (kept node before)⟩
    · rw [SessionPlan.buildAll_cons, List.map_cons, List.map_cons, subscribed,
        Session.subscription, canonical]
      rfl
    · rw [SessionPlan.buildAll_cons, List.forall_mem_cons]
      exact ⟨later _ built, live⟩

/-- Plans that say what sessions in use subscribe to are built as these sessions. -/
theorem Sound.plans_known (sound : work.Sound) (told : work.Told) {sessions : List Session}
    (live : ∀ session ∈ sessions, work.Live (.rule session.rule)) {plans : List SessionPlan}
    (same : plans.map SessionPlan.subscription = sessions.map Session.subscription) :
    (SessionPlan.buildAll plans work.store).1 = sessions := by
  obtain ⟨after, run, -, subscribed, built, later⟩ := sound.plans_built told plans
  exact (run.sound sound).sessions_eq built (fun session inside => later _ (live session inside))
    (subscribed.trans same)

/-- Of two configurations that subscribe to the same, the one that is loaded later gives the sessions of the
other. -/
theorem Sound.plans_agreeing (sound : work.Sound) (told : work.Told) {first second : List SessionPlan}
    (same : second.map SessionPlan.subscription = first.map SessionPlan.subscription) :
    (SessionPlan.buildAll second (SessionPlan.buildAll first work.store).2).1 =
      (SessionPlan.buildAll first work.store).1 := by
  obtain ⟨after, run, store, subscribed, live, -⟩ := sound.plans_built told first
  rw [← store]
  exact (run.sound sound).plans_known (run.told sound told) live (same.trans subscribed.symm)

/-- Sessions written in sections and as a document are loaded alike. Of either text the sessions are, in
order, those that are neither disabled nor have a rule that cannot be read, each with its rule or the rule
for every event. While the ones are in use, loading the others gives the very same. -/
theorem written_sessions_agree (run : Run start work) {entries : List Entry}
    (writable : ∀ entry ∈ entries, entry.Writable) :
    let document := listDocument entries
    Json.read? document.toText.toList = some document ∧
      ∀ text, Json.read? text.toList = some document → ∃ sections listed,
        (ofSections (sectionsText entries).toUTF8).outcome = .ok sections ∧
        (ofJson text).outcome = .ok listed ∧
        (SessionPlan.buildAll sections work.store).1.map Session.subscription =
          entries.filterMap Entry.subscription? ∧
        (SessionPlan.buildAll listed work.store).1.map Session.subscription =
          entries.filterMap Entry.subscription? ∧
        (SessionPlan.buildAll listed (SessionPlan.buildAll sections work.store).2).1 =
          (SessionPlan.buildAll sections work.store).1 ∧
        (SessionPlan.buildAll sections (SessionPlan.buildAll listed work.store).2).1 =
          (SessionPlan.buildAll listed work.store).1 := by
  have sound := run.sound start_sound
  have told := run.told start_sound start_told
  refine ⟨read?_listDocument entries, fun text reads => ?_⟩
  obtain ⟨sections, loaded, asSections⟩ := ofSections_sectionsText writable
  obtain ⟨listed, read, asListed⟩ := ofJson_listDocument reads
  obtain ⟨-, -, -, fromSections, -, -⟩ := sound.plans_built told sections
  obtain ⟨-, -, -, fromListed, -, -⟩ := sound.plans_built told listed
  exact ⟨sections, listed, loaded, read, fromSections.trans asSections, fromListed.trans asListed,
    sound.plans_agreeing told (asListed.trans asSections.symm),
    sound.plans_agreeing told (asSections.trans asListed.symm)⟩

/-- A disabled session and one whose rule cannot be read are left out of both. -/
theorem written_sessions_agree_mixed :
    let entries : List Entry := [⟨"in", "other", some "*", true⟩, ⟨"in", "lost", some "r*", false⟩,
      ⟨"in", "out", some "no *", false⟩, ⟨"out", "in", none, false⟩]
    let text := "[src=in, dst=other, disable]\n*\n[src=in, dst=lost]\nr*\n[src=in, dst=out]\nno *\n" ++
      "[src=out, dst=in]\n"
    ∃ sections listed, (ofSections text.toUTF8).outcome = .ok sections ∧
      (ofJson (listDocument entries).toText).outcome = .ok listed ∧
      (SessionPlan.buildAll sections start.store).1.map Session.subscription =
        [⟨"in", "out", (Expression.no .anything).canonical⟩,
          ⟨"out", "in", Expression.anything.canonical⟩] ∧
      (SessionPlan.buildAll listed (SessionPlan.buildAll sections start.store).2).1 =
        (SessionPlan.buildAll sections start.store).1 := by
  intro entries text
  have room : ∀ name ∈ ["in", "out", "other", "lost"], RoomName name := by
    intro name member
    simp only [List.mem_cons, List.not_mem_nil, or_false] at member
    rcases member with rfl | rfl | rfl | rfl <;> exact ⟨by decide, by decide, by simp⟩
  have line : ∀ text ∈ ["*", "r*", "no *"], RuleLine text := by
    intro text member
    simp only [List.mem_cons, List.not_mem_nil, or_false] at member
    rcases member with rfl | rfl | rfl <;> exact ⟨by decide, by decide, by decide, by simp⟩
  have writable : ∀ entry ∈ entries, entry.Writable := by
    have fits (source destination : String) (rule : Option String) (disabled : Bool)
        (rooms : source ∈ ["in", "out", "other", "lost"] ∧
          destination ∈ ["in", "out", "other", "lost"])
        (lines : ∀ text ∈ rule, text ∈ ["*", "r*", "no *"]) :
          Entry.Writable ⟨source, destination, rule, disabled⟩ :=
      ⟨room source rooms.1, room destination rooms.2, fun text given => line text (lines text given)⟩
    simp only [entries, List.forall_mem_cons]
    exact ⟨fits _ _ _ _ (by decide) (by simp), fits _ _ _ _ (by decide) (by simp),
      fits _ _ _ _ (by decide) (by simp),
      fits _ _ _ _ (by decide) (by simp), by simp⟩
  obtain ⟨reads, loaded⟩ := written_sessions_agree .refl writable
  obtain ⟨sections, listed, asSections, asListed, subscribed, -, same, -⟩ := loaded _ reads
  have written : sectionsText entries = text := by decide
  have kept : entries.filterMap Entry.subscription? =
      [⟨"in", "out", (Expression.no .anything).canonical⟩,
        ⟨"out", "in", Expression.anything.canonical⟩] := by
    decide +kernel
  exact ⟨sections, listed, written ▸ asSections, asListed, subscribed.trans kept, same⟩

end Workspace

end EventRouting
