import FeedRelay.Feed.Roster
import FeedRelay.Proofs.Feed.Uplink
import FeedRelay.Proofs.Topic.Keys

/-!
# Topics with different keys

A service knows a topic by its key alone. Topics with different keys have nothing to do with each
other: whether one is followed makes no difference to a subscription to the other, the follower of
one stays when the other is dropped, and their messages carry different keys. Topics with the same
key are one topic to the service.
-/

namespace FeedRelay.Feed

namespace Roster

variable {roster : Roster} {key other : String}

theorem find?_drop (hne : other ≠ key) :
    (roster.drop key).find? other = roster.find? other := by
  rw [find?, find?, drop, List.find?_filter]
  refine congrArg (roster.followers.find? ·) (funext fun f => ?_)
  by_cases hf : f.key = other <;> simp [hf, hne]

theorem isLive_drop (hne : other ≠ key) :
    (roster.drop key).isLive other = roster.isLive other := by
  rw [isLive, isLive, state?, state?, find?_drop hne]

/-- What comes of subscribing to a topic depends on the followers only in whether its key is
live. -/
theorem result_subscribe_congr {other : Roster} {network : Connect} {topic : Topic}
    (hbase : other.base = roster.base) (hpolicy : other.policy = roster.policy)
    (hlive : other.isLive topic.displayKey = roster.isLive topic.displayKey) :
    (other.subscribe network topic).result = (roster.subscribe network topic).result := by
  obtain ⟨base, policy, followers⟩ := roster
  obtain ⟨base', policy', others⟩ := other
  obtain rfl : base' = base := hbase
  obtain rfl : policy' = policy := hpolicy
  simp only [subscribe, hlive, drop]
  split
  · rfl
  · -- The attempt to connect comes out the same, and a new follower starts the same.
    rcases connect network topic base' with ⟨result, log⟩
    cases result with
    | ok url => rfl
    | error failure =>
      cases hretry : failure.isOfConnection && policy'.enabled <;> simp [hretry, follow]

end Roster

/-- **Topics with different keys are apart.** Two topics that differ in their names or instance ids
have the same key if and only if the name of one runs into the id of the other. If their keys
differ, a subscription to one comes to the same whether the other is followed or not, to unsubscribe
from one leaves the follower of the other, and no message of one carries the key of a message of
the other. If their keys are the same, a subscription to one is refused while the other is live. -/
theorem topics_apart {t u : Topic} (hne : (t.name, t.instanceId) ≠ (u.name, u.instanceId)) :
    (t.displayKey = u.displayKey ↔ t.RunsInto u ∨ u.RunsInto t) ∧
    (t.displayKey ≠ u.displayKey →
      (∀ roster network, (Roster.subscribe roster network u).result =
        ((roster.drop t.displayKey).subscribe network u).result) ∧
      (∀ roster taken rest actions,
        Roster.unsubscribe roster t.displayKey taken = some (rest, actions) →
          rest.find? u.displayKey = roster.find? u.displayKey) ∧
      ∀ policy url moves v sights policy' url' moves' w sights',
        Uplink.machine.run (Uplink.start t policy url) moves = some (v, sights) →
        Uplink.machine.run (Uplink.start u policy' url') moves' = some (w, sights') →
        ∀ m m', .message m ∈ callbacks sights → .message m' ∈ callbacks sights' →
          m.topic ≠ m'.topic) ∧
    (t.displayKey = u.displayKey → ∀ roster network,
      Roster.isLive roster t.displayKey = true →
        (roster.subscribe network u).result = .error (.alreadySubscribed u.displayKey)) := by
  refine ⟨Topic.displayKey_eq_iff hne, fun hkeys => ⟨?_, ?_, ?_⟩, ?_⟩
  · intro roster network
    exact Roster.result_subscribe_congr rfl rfl (Roster.isLive_drop hkeys.symm).symm
  · intro roster taken rest actions h
    obtain ⟨f, -, hrest⟩ := Option.map_eq_some_iff.mp h
    rw [← (Prod.mk.inj hrest).1, Roster.find?_drop hkeys.symm]
  · intro policy url moves v sights policy' url' moves' w sights' hv hw m m' hm hm'
    rw [(Uplink.reached_of_run hv).topic_of_message hm,
      (Uplink.reached_of_run hw).topic_of_message hm']
    exact hkeys
  · intro hkeys roster network hlive
    rw [hkeys] at hlive
    have hrefused : roster.subscribe network u = _ := if_pos hlive
    rw [hrefused]

/-- A name with a hyphen and a name with another instance id are apart. -/
theorem apart_of_other_id :
    (("a-b", none) : String × Option String) ≠ ("a", some "c") ∧
      ∀ roster network, (Roster.subscribe roster network ⟨"a", some "c", none, []⟩).result =
        ((roster.drop "a-b").subscribe network ⟨"a", some "c", none, []⟩).result := by
  have hne : (("a-b", none) : String × Option String) ≠ ("a", some "c") := by decide
  obtain ⟨-, hapart, -⟩ :=
    topics_apart (t := ⟨"a-b", none, none, []⟩) (u := ⟨"a", some "c", none, []⟩) hne
  exact ⟨hne, (hapart (by decide)).1⟩

end FeedRelay.Feed
