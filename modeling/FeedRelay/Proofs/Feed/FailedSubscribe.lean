import FeedRelay.Proofs.Feed.ServiceRoster

/-!
# A subscription that fails

A subscription that is refused, or whose topic has no address, leaves all entries of a service. One
that fails to connect leaves all entries but that of its own key: if the key had one, its task had
closed, and it was dropped before the attempt. Nothing else changes but what the tasks do by
themselves in the meantime (`Service.stateAfter`).

A topic has no address only if no topic has one below the address of the service, and then the
service has no tasks (`Service.exists_url_of_follower?`).

## Main results

* `Service.after_failed_subscription`: the keys and states after a subscription that failed.
* `Service.failed_subscription_drops_closed`: a subscription that fails and drops an entry.
-/

namespace FeedRelay.Feed

/-- An attempt to connect fails because of the connection, or because the topic has no address. -/
theorem connect_cases (network : Connect) (topic : Topic) (base : Url) :
    (∃ url, topic.url base = .ok url ∧ ((connect network topic base).1 = .ok url ∨
      ∃ failure, failure.isOfConnection = true ∧
        (connect network topic base).1 = .error failure)) ∨
    ∃ fault, topic.url base = .error fault ∧
      (connect network topic base).1 = .error (.invalidTopic fault) := by
  unfold connect
  cases hurl : topic.url base with
  | error fault => exact .inr ⟨fault, rfl, rfl⟩
  | ok url =>
    refine .inl ⟨url, rfl, ?_⟩
    cases hfault : network url with
    | none => exact .inl (by simp [hfault])
    | some fault => exact .inr ⟨.connection url.toText fault, rfl, by simp [hfault]⟩

namespace Roster

variable {roster : Roster} {key : String}

/-- A key that is not live is not followed, or its follower has closed. -/
theorem state?_of_not_live (h : roster.isLive key = false) :
    roster.state? key = none ∨ roster.state? key = some .closed := by
  unfold isLive at h
  cases hstate : roster.state? key with
  | none => exact .inl rfl
  | some state =>
    rw [hstate] at h
    exact .inr (by simpa using h)

@[simp] theorem length_keys (roster : Roster) : roster.keys.length = roster.size :=
  List.length_map _

/-- One key less is one less, if it was there. -/
theorem size_of_keys {old new : Roster} (hnodup : old.keys.Nodup)
    (h : new.keys = old.keys.filter (· ≠ key)) :
    new.size + (if key ∈ old.keys then 1 else 0) = old.size := by
  rw [← length_keys new, ← length_keys old, h, ← hnodup.count, ← List.countP_eq_length_filter,
    List.length_eq_countP_add_countP (· ≠ key), List.count]
  simp [beq_eq_decide]

end Roster

/-! ### Failures that are reported -/

/-- The failure of a subscription, if one is reported. -/
def Report.failure? : Report → Option Failure
  | .returned (.subscribed (.error failure)) => some failure
  | _ => none

/-- The failures of subscriptions among reports. -/
def failuresOf (reports : List Report) : List Failure :=
  reports.filterMap Report.failure?

@[simp] theorem failuresOf_append (reports more : List Report) :
    failuresOf (reports ++ more) = failuresOf reports ++ failuresOf more :=
  List.filterMap_append

@[simp] theorem failuresOf_error (failure : Failure) :
    failuresOf [.returned (.subscribed (.error failure))] = [failure] := rfl

namespace Service

variable {s t u : Service} {topic : Topic} {move : Move} {moves : List Move}
  {reports more : List Report} {n : Nat} {f : Follower}

/-- Whether a move asks for a subscription. -/
def Move.isSubscription : Move → Bool
  | .subscribe _ _ | .subscribeTopic _ => true
  | _ => false

/-- Whether a move is a step of a call or of a task, and no call. -/
def Move.isInner : Move → Bool
  | .resume | .connected _ | .occur _ _ => true
  | _ => false

/-- The outcome of an attempt to connect: a task is started, or the subscription fails. -/
theorem connected_cases {network : Connect}
    (h : machine s (.connected network) = some (t, reports)) :
    ∃ topic, s.call = .connecting topic ∧
      ((∃ url address, topic.url s.base = .ok url ∧ s.follow topic address = (t, reports)) ∨
      ∃ failure, t = { s with call := .idle } ∧
        reports = [.returned (.subscribed (.error failure))] ∧
        (failure.isOfConnection = true ∧ s.policy.enabled = false ∨
          failure.isOfConnection = false ∧ ∃ fault, topic.url s.base = .error fault)) := by
  rw [machine] at h
  split at h
  case h_2 => cases h
  case h_1 topic hcall =>
    refine ⟨topic, hcall, ?_⟩
    have h := Option.some.inj h
    unfold connected at h
    rcases connect_cases network topic s.base with
      ⟨url, hurl, hok | ⟨failure, hfailure, herror⟩⟩ | ⟨fault, hfault, herror⟩
    · rw [hok] at h
      exact .inl ⟨url, _, hurl, h⟩
    · rw [herror] at h
      simp only [hfailure, Bool.true_and] at h
      split at h
      · exact .inl ⟨url, _, hurl, h⟩
      · rename_i hpolicy
        obtain ⟨rfl, rfl⟩ := Prod.mk.inj h
        exact .inr ⟨failure, rfl, rfl, .inl ⟨hfailure, eq_false_of_ne_true hpolicy⟩⟩
    · rw [herror] at h
      obtain ⟨rfl, rfl⟩ := Prod.mk.inj h
      exact .inr ⟨_, rfl, rfl, .inr ⟨rfl, fault, hfault⟩⟩

/-- A service has tasks only if topics have addresses. -/
theorem exists_url_of_follower? {base : Url} {policy : ReconnectPolicy}
    (h : machine.run (start base policy) moves = some (s, reports)) (hf : s.follower? n = some f)
    (topic : Topic) : ∃ url, topic.url base = .ok url := by
  refine Machine.run_induction
    (motive := fun _ s _ => ∀ f, s.follower? n = some f → ∃ url, topic.url base = .ok url)
    (fun f hf => by cases hf) ?_ h f hf
  intro moves s _ move t more hmoves hs hstep f hf
  cases hnone : s.follower? n with
  | some r => exact hs r hnone
  | none =>
    obtain ⟨network, -, -, rfl, -⟩ := started_of_machine hstep hnone hf
    obtain ⟨other, -, ⟨url, -, hurl, -⟩ | ⟨failure, rfl, -⟩⟩ := connected_cases hstep
    · rw [(settings_of_run hmoves).1] at hurl
      exact Topic.exists_url_of_url hurl
    · cases hnone.symm.trans hf

/-! ### What a subscription leaves -/

/-- What has come of a move that asked for a subscription in one state of a service, in another one:
it was refused, it goes on, it has failed, or it has come to a task. A subscription that was not
refused has dropped the entry of its key. -/
inductive Asked (s : Service) (move : Move) (t : Service) (reports : List Report) : Prop
  | refused (hidle : t.call.isIdle = true) (hentries : t.entries = s.entries)
      (hreports : ∀ failure ∈ failuresOf reports, failure.isOfConnection = false)
  | pending {topic : Topic} (hmove : move.topic? = some topic)
      (hlive : s.roster.isLive topic.displayKey = false) (hcall : t.call.topic? = some topic)
      (hentries : t.entries = s.entries.filter (s.keyOf · ≠ topic.displayKey))
      (hreports : failuresOf reports = [])
  | failed {topic : Topic} (hmove : move.topic? = some topic)
      (hlive : s.roster.isLive topic.displayKey = false) (hidle : t.call.isIdle = true)
      (hentries : t.entries = s.entries.filter (s.keyOf · ≠ topic.displayKey))
      (hreports : ∀ failure ∈ failuresOf reports,
        failure.isOfConnection = true ∧ s.policy.enabled = false ∨
          failure.isOfConnection = false ∧ ∃ fault, topic.url s.base = .error fault)
  | followed (hidle : t.call.isIdle = true) (hreports : failuresOf reports = [])

theorem asked_of_ask (hmove : move.topic? = some topic) (hidle : s.call.isIdle = true)
    (h : s.ask topic = (t, reports)) : s.Asked move t reports := by
  cases hlive : s.roster.isLive topic.displayKey with
  | true =>
    rw [ask, if_pos hlive] at h
    obtain ⟨rfl, rfl⟩ := Prod.mk.inj h
    exact .refused hidle rfl (by simp [Failure.isOfConnection])
  | false =>
    rw [ask, if_neg (ne_true_of_eq_false hlive)] at h
    cases hentry : s.entryOf topic.displayKey with
    | some n =>
      rw [hentry] at h
      obtain ⟨rfl, rfl⟩ := Prod.mk.inj h
      exact .pending hmove hlive rfl rfl rfl
    | none =>
      rw [hentry] at h
      obtain ⟨rfl, rfl⟩ := Prod.mk.inj h
      refine .pending hmove hlive rfl (List.filter_eq_self.mpr fun n hn => ?_).symm rfl
      exact decide_eq_true (keyOf_ne_of_entryOf hentry n hn)

theorem asked_of_machine (hmove : move.isSubscription = true)
    (h : machine s move = some (t, reports)) : s.Asked move t reports := by
  cases move with
  | subscribe name instanceId =>
    obtain ⟨hidle, h⟩ := Option.ite_none_right_eq_some.mp h
    cases htopic : Topic.ofParts name instanceId with
    | ok topic =>
      rw [htopic] at h
      exact asked_of_ask (by rw [Move.topic?, htopic]; rfl) hidle (Option.some.inj h)
    | error fault =>
      rw [htopic] at h
      obtain ⟨rfl, rfl⟩ := Prod.mk.inj (Option.some.inj h)
      exact .refused hidle rfl (by simp [Failure.isOfConnection])
  | subscribeTopic topic =>
    obtain ⟨hidle, h⟩ := Option.ite_none_right_eq_some.mp h
    exact asked_of_ask rfl hidle (Option.some.inj h)
  | _ => cases hmove

/-- The step of a task is no matter of the calls. -/
theorem occur_spec {occurrence : Occurrence}
    (h : machine s (.occur n occurrence) = some (t, reports)) :
    t.entries = s.entries ∧ t.call = s.call ∧ failuresOf reports = [] := by
  obtain ⟨task, -, h⟩ := Option.bind_eq_some_iff.mp h
  obtain ⟨-, h⟩ := Option.ite_none_right_eq_some.mp h
  obtain ⟨⟨g, actions⟩, -, h⟩ := Option.map_eq_some_iff.mp h
  obtain ⟨rfl, rfl⟩ := Prod.mk.inj h
  refine ⟨rfl, rfl, List.filterMap_eq_nil_iff.mpr fun report hreport => ?_⟩
  obtain ⟨_, -, rfl⟩ := List.mem_map.mp hreport
  rfl

/-- Only tasks make steps while no call is being made. -/
theorem inner_of_idle (hidle : s.call.isIdle = true) (hmove : move.isInner = true)
    (h : machine s move = some (t, reports)) :
    t.entries = s.entries ∧ t.call = s.call ∧ failuresOf reports = [] := by
  cases hcall : s.call with
  | idle =>
    cases move with
    | occur n occurrence => exact hcall ▸ occur_spec h
    | resume => simp [machine, resume, hcall] at h
    | connected network => simp [machine, hcall] at h
    | _ => cases hmove
  | _ =>
    rw [hcall] at hidle
    cases hidle

/-- A subscription that waits goes on to connect. -/
theorem resume_of_topic? (hcall : s.call.topic? = some topic)
    (h : machine s .resume = some (t, reports)) :
    t.entries = s.entries ∧ t.call = .connecting topic ∧ reports = [] := by
  change s.resume = _ at h
  unfold resume at h
  split at h
  · rename_i other n hreplacing
    obtain ⟨-, h⟩ := Option.ite_none_right_eq_some.mp h
    obtain ⟨rfl, rfl⟩ := Prod.mk.inj (Option.some.inj h)
    rw [hreplacing] at hcall
    cases hcall
    exact ⟨rfl, rfl, rfl⟩
  · rename_i n hdropping
    rw [hdropping] at hcall
    cases hcall
  · rename_i n rest hclearing
    rw [hclearing] at hcall
    cases hcall
  · cases h

/-- A subscription goes on by the steps of the call and of the tasks. -/
theorem Asked.step (h : s.Asked move t reports) (hsettings : t.base = s.base ∧ t.policy = s.policy)
    {inner : Move} (hinner : inner.isInner = true) (hstep : machine t inner = some (u, more)) :
    s.Asked move u (reports ++ more) := by
  cases h with
  | refused hidle hentries hreports =>
    obtain ⟨hsame, hcall, hnone⟩ := inner_of_idle hidle hinner hstep
    exact .refused (hcall ▸ hidle) (hsame.trans hentries)
      (by rwa [failuresOf_append, hnone, List.append_nil])
  | failed hmove hlive hidle hentries hreports =>
    obtain ⟨hsame, hcall, hnone⟩ := inner_of_idle hidle hinner hstep
    exact .failed hmove hlive (hcall ▸ hidle) (hsame.trans hentries)
      (by rwa [failuresOf_append, hnone, List.append_nil])
  | followed hidle hreports =>
    obtain ⟨-, hcall, hnone⟩ := inner_of_idle hidle hinner hstep
    exact .followed (hcall ▸ hidle)
      (by rw [failuresOf_append, hreports, hnone, List.append_nil])
  | @pending topic hmove hlive hcall hentries hreports =>
    cases inner with
    | occur n occurrence =>
      obtain ⟨hsame, hkeep, hnone⟩ := occur_spec hstep
      exact .pending hmove hlive (hkeep ▸ hcall) (hsame.trans hentries)
        (by rw [failuresOf_append, hreports, hnone, List.append_nil])
    | resume =>
      obtain ⟨hsame, hconnecting, rfl⟩ := resume_of_topic? hcall hstep
      rw [List.append_nil]
      exact .pending hmove hlive (by rw [hconnecting]; rfl) (hsame.trans hentries) hreports
    | connected network =>
      obtain ⟨other, hconnecting, hcases⟩ := connected_cases hstep
      obtain rfl : other = topic := by
        rw [hconnecting] at hcall
        exact Option.some.inj hcall
      rcases hcases with ⟨url, address, -, hfollow⟩ | ⟨failure, rfl, rfl, hwhy⟩
      · obtain ⟨rfl, rfl⟩ := Prod.ext_iff.mp hfollow
        exact .followed rfl (by rw [failuresOf_append, hreports, reports_follow]; rfl)
      · rw [hsettings.1, hsettings.2] at hwhy
        refine .failed hmove hlive rfl hentries ?_
        rw [failuresOf_append, hreports, List.nil_append, failuresOf_error]
        exact List.forall_mem_singleton.mpr hwhy
    | _ => cases hinner

theorem Asked.run (h : s.Asked move t reports) (hsettings : t.base = s.base ∧ t.policy = s.policy)
    (hinner : ∀ inner ∈ moves, inner.isInner = true) (hrun : machine.run t moves = some (u, more)) :
    s.Asked move u (reports ++ more) := by
  refine Machine.run_induction
    (motive := fun moves u more => (∀ inner ∈ moves, inner.isInner = true) →
      s.Asked move u (reports ++ more))
    (fun _ => by rwa [List.append_nil]) (fun hmoves hasked hstep hinner => ?_) hrun hinner
  obtain ⟨hbase, hpolicy⟩ := settings_of_run hmoves
  rw [← List.append_assoc]
  exact (hasked fun inner hmem => hinner inner (List.mem_append_left _ hmem)).step
    ⟨hbase.trans hsettings.1, hpolicy.trans hsettings.2⟩
    (hinner _ (List.mem_append_right _ (List.mem_singleton_self _))) hstep

/-- A subscription that has failed has left all entries, or it has failed to connect, and has left
all but that of its own key. -/
theorem Asked.entries_of_failed {base : Url} {policy : ReconnectPolicy} {before : List Move}
    {failure : Failure} (h : s.Asked move t reports)
    (hbefore : machine.run (start base policy) before = some (s, more))
    (hfailed : failure ∈ failuresOf reports) :
    failure.isOfConnection = false ∧ t.entries = s.entries ∨
      failure.isOfConnection = true ∧ s.policy.enabled = false ∧
        ∃ topic, move.topic? = some topic ∧ s.roster.isLive topic.displayKey = false ∧
          t.entries = s.entries.filter (s.keyOf · ≠ topic.displayKey) := by
  cases h with
  | refused _ hentries hreports => exact .inl ⟨hreports failure hfailed, hentries⟩
  | pending _ _ _ _ hreports => simp [hreports] at hfailed
  | followed _ hreports => simp [hreports] at hfailed
  | @failed topic hmove hlive _ hentries hreports =>
    rcases hreports failure hfailed with ⟨hconnection, hpolicy⟩ | ⟨hother, fault, hfault⟩
    · exact .inr ⟨hconnection, hpolicy, topic, hmove, hlive, hentries⟩
    · -- Without an address for the topic there was no task, so there was no entry to drop.
      have hempty : s.entries = [] := by
        refine List.eq_nil_iff_forall_not_mem.mpr fun n hn => ?_
        obtain ⟨f, hf⟩ := exists_follower? ((reached_of_run hbefore).orderly.lt_of_mem_entries hn)
        obtain ⟨url, hurl⟩ := exists_url_of_follower? hbefore hf topic
        rw [(settings_of_run hbefore).1] at hfault
        cases hurl.symm.trans hfault
      rw [hempty] at hentries ⊢
      exact .inl ⟨hother, hentries⟩

/-! ### Keys and states after a run that leaves entries -/

/-- The state of a key after some moves, if its entry has stayed: where its task stands after the
steps that were its own. -/
def stateAfter (s : Service) (moves : List Move) (key : String) : Option State :=
  (s.entryOf key).bind fun n => (s.follower? n).bind fun f =>
    (Follower.machine.run f (stepsOf n moves)).map fun (g, _) => g.state

/-- A key whose task makes no step stays where it is. -/
theorem Orderly.stateAfter_of_still (hs : s.Orderly) {key : String}
    (h : ∀ n, s.entryOf key = some n → stepsOf n moves = []) :
    s.stateAfter moves key = s.roster.state? key := by
  rw [hs.state?_roster, stateAfter]
  cases hentry : s.entryOf key with
  | none => rfl
  | some n =>
    rw [Option.bind_some, Option.bind_some, h n hentry]
    cases s.follower? n <;> rfl

theorem Orderly.keyOf_of_mem (hs : s.Orderly) (h : machine.run s moves = some (t, reports))
    (hn : n ∈ s.entries) : t.keyOf n = s.keyOf n :=
  (hs.keyOf_of_run h (hs.lt_of_mem_entries hn)).2.2

/-- A run that leaves the entry of a key leaves the key where its task is. -/
theorem Orderly.state?_of_run (hs : s.Orderly) (h : machine.run s moves = some (t, reports))
    (ht : t.Orderly) {key : String} (hentry : t.entryOf key = s.entryOf key) :
    t.roster.state? key = s.stateAfter moves key := by
  rw [ht.state?_roster, hentry, stateAfter]
  cases hn : s.entryOf key with
  | none => rfl
  | some n =>
    obtain ⟨f, hf⟩ := exists_follower? (hs.lt_of_mem_entries (entryOf_eq_some hn).1)
    obtain ⟨g, actions, hrun, hg⟩ := follower?_of_run h hf
    rw [Option.bind_some, Option.bind_some, hf, hg, Option.bind_some, hrun]
    rfl

/-- A run that leaves the entries of some keys leaves these keys, and each is where its task is. -/
theorem Orderly.roster_of_run (hs : s.Orderly) (h : machine.run s moves = some (t, reports))
    (ht : t.Orderly) (keep : String → Bool)
    (hentries : t.entries = s.entries.filter fun n => keep (s.keyOf n)) :
    t.roster.keys = s.roster.keys.filter keep ∧
      ∀ key, t.roster.state? key = if keep key then s.stateAfter moves key else none := by
  refine ⟨?_, fun key => ?_⟩
  · rw [ht.keys_roster, hs.keys_roster, hentries, List.filter_map]
    exact List.map_congr_left fun n hn => hs.keyOf_of_mem h (List.mem_filter.mp hn).1
  have hentry : t.entryOf key =
      s.entries.find? fun n => decide (keep (s.keyOf n) = true ∧ s.keyOf n = key) := by
    rw [entryOf, hentries, List.find?_filter]
    refine List.find?_congr fun n hn => ?_
    simp only [hs.keyOf_of_mem h hn, decide_eq_true_iff]
  split
  · rename_i hkeep
    refine hs.state?_of_run h ht (hentry.trans (List.find?_congr fun n _ => ?_))
    by_cases hn : s.keyOf n = key <;> simp [hn, hkeep]
  · rename_i hdrop
    rw [ht.state?_roster, hentry, List.find?_eq_none.mpr, Option.bind_none]
    intro n _
    by_cases hn : s.keyOf n = key <;> simp [hn, hdrop]

theorem stateAfter_cons (hmove : move.isSubscription = true) (key : String) :
    s.stateAfter (move :: moves) key = s.stateAfter moves key := by
  have hsteps (n : Nat) : stepsOf n (move :: moves) = stepsOf n moves := by
    cases move with
    | subscribe | subscribeTopic => rfl
    | _ => cases hmove
  simp only [stateAfter, hsteps]

/-- **A failed subscription leaves what it found, but for a key that was closed.** If a subscription
is refused, or its topic has no address, the keys of the service are as before, and so is the state
of each of them, but for what its own task did in the meantime. If it fails to connect, and then the
service does not reconnect, the same holds of all keys but its own: that one was not there or was
closed before, and is not there afterwards. -/
theorem after_failed_subscription {base : Url} {policy : ReconnectPolicy} {before rest : List Move}
    {first : List Report} {failure : Failure}
    (hbefore : machine.run (start base policy) before = some (s, reports))
    (hmove : move.isSubscription = true) (hcall : machine s move = some (t, first))
    (hrest : machine.run t rest = some (u, more))
    (hinner : ∀ inner ∈ rest, inner.isInner = true)
    (hfailed : failure ∈ failuresOf (first ++ more)) :
    (failure.isOfConnection = false ∧ u.roster.keys = s.roster.keys ∧
        u.roster.size = s.roster.size ∧ (∀ key, u.roster.state? key = s.stateAfter rest key) ∨
      failure.isOfConnection = true ∧ s.policy.enabled = false ∧
        ∃ topic, move.topic? = some topic ∧
          (s.roster.state? topic.displayKey = none ∨
            s.roster.state? topic.displayKey = some .closed) ∧
          u.roster.keys = s.roster.keys.filter (· ≠ topic.displayKey) ∧
          u.roster.size + (if topic.displayKey ∈ s.roster.keys then 1 else 0) = s.roster.size ∧
          ∀ key, u.roster.state? key =
            if key ≠ topic.displayKey then s.stateAfter rest key else none) ∧
    ∀ key, (∀ n, s.entryOf key = some n → stepsOf n rest = []) →
      s.stateAfter rest key = s.roster.state? key := by
  have hs := (reached_of_run hbefore).orderly
  have hrun : machine.run s (move :: rest) = some (u, first ++ more) :=
    machine.run_append (machine.run_singleton.mpr hcall) hrest
  have hu := (reached_of_run (machine.run_append hbefore hrun)).orderly
  have hasked := (asked_of_machine hmove hcall).run (settings_of_machine hcall) hinner hrest
  have hroster := hs.roster_of_run hrun hu
  simp only [stateAfter_cons hmove] at hroster
  refine ⟨?_, fun key hstill => hs.stateAfter_of_still hstill⟩
  rcases hasked.entries_of_failed hbefore hfailed with
    ⟨hother, hentries⟩ | ⟨hconnection, hpolicy, topic, htopic, hlive, hentries⟩
  · obtain ⟨hkeys, hstates⟩ := hroster (fun _ => true) (by simpa using hentries)
    rw [List.filter_true] at hkeys
    refine .inl ⟨hother, hkeys, ?_, hstates⟩
    rw [← Roster.length_keys, ← Roster.length_keys, hkeys]
  · obtain ⟨hkeys, hstates⟩ := hroster (· ≠ topic.displayKey) hentries
    have hnodup : s.roster.keys.Nodup := by
      refine (sorted_of_run hbefore).imp ?_
      rintro key _ hlt rfl
      exact String.lt_irrefl key hlt
    exact .inr ⟨hconnection, hpolicy, topic, htopic, Roster.state?_of_not_live hlive, hkeys,
      Roster.size_of_keys hnodup hkeys, by simpa using hstates⟩

/-- A service with a closed and an open key fails to connect for the closed one, and the other
closes in the meantime: the keys are one less, and the other key is closed. -/
theorem after_failed_subscription_of_two :
    ∃ s t u reports first more failure,
      machine.run (start Topic.slashed .disabled)
        [.subscribe "a" none, .connected fun _ => none, .occur 0 .event,
          .occur 0 (.signal .ended), .occur 0 .event, .subscribe "b" none,
          .connected fun _ => none, .occur 1 .event] = some (s, reports) ∧
      machine s (.subscribe "a" none) = some (t, first) ∧
      machine.run t [.resume, .occur 1 (.signal .ended), .occur 1 .event,
        .connected fun _ => some (.io .refused)] = some (u, more) ∧
      failure ∈ failuresOf (first ++ more) ∧ failure.isOfConnection = true ∧
      s.roster.keys = ["a", "b"] ∧ u.roster.keys = ["b"] ∧ u.roster.size + 1 = s.roster.size ∧
      s.roster.state? "b" = some .streaming ∧ u.roster.state? "b" = some .closed := by
  have hrun : ((machine.run (start Topic.slashed .disabled)
      [.subscribe "a" none, .connected fun _ => none, .occur 0 .event,
        .occur 0 (.signal .ended), .occur 0 .event, .subscribe "b" none,
        .connected fun _ => none, .occur 1 .event]).bind fun (s, _) =>
        (machine s (.subscribe "a" none)).bind fun (t, first) =>
          (machine.run t [.resume, .occur 1 (.signal .ended), .occur 1 .event,
            .connected fun _ => some (.io .refused)]).map fun (_, more) =>
              (failuresOf (first ++ more), s.roster.keys, s.roster.state? "b",
                s.stateAfter [.resume, .occur 1 (.signal .ended), .occur 1 .event,
                  .connected fun _ => some (.io .refused)] "b")) =
      some ([.connection "ws://h/subscribe/a" (.io .refused)], ["a", "b"], some .streaming,
        some .closed) := by
    decide +kernel
  obtain ⟨⟨s, reports⟩, hbefore, hrun⟩ := Option.bind_eq_some_iff.mp hrun
  obtain ⟨⟨t, first⟩, hcall, hrun⟩ := Option.bind_eq_some_iff.mp hrun
  obtain ⟨⟨u, more⟩, hrest, hseen⟩ := Option.map_eq_some_iff.mp hrun
  simp only [Prod.mk.injEq] at hseen
  obtain ⟨hfailures, hkeys, hopen, hafter⟩ := hseen
  have hfailed : Failure.connection "ws://h/subscribe/a" (.io .refused) ∈
      failuresOf (first ++ more) := by
    rw [hfailures]
    exact List.mem_singleton_self _
  obtain ⟨⟨hother, -⟩ | ⟨-, -, topic, htopic, -, hleft, hsize, hstates⟩, -⟩ :=
    after_failed_subscription hbefore rfl hcall hrest (by simp [Move.isInner]) hfailed
  · cases hother
  have hkey : ((Move.subscribe "a" none).topic?.map Topic.displayKey) = some "a" := by
    decide +kernel
  rw [htopic, Option.map_some, Option.some.injEq] at hkey
  rw [hkey] at hleft hsize hstates
  refine ⟨s, t, u, reports, first, more, _, hbefore, hcall, hrest, hfailed, rfl, hkeys, ?_, ?_,
    hopen, ?_⟩
  · rw [hleft, hkeys]
    decide
  · rw [hkeys] at hsize
    exact hsize
  · rw [hstates, hafter]
    rfl

/-- A closed key is dropped although the subscription fails. -/
theorem failed_subscription_drops_closed :
    ∃ s t u reports first more failure,
      machine.run (start Topic.slashed .disabled)
        [.subscribe "a" none, .connected fun _ => none, .occur 0 .event,
          .occur 0 (.signal .ended), .occur 0 .event] = some (s, reports) ∧
      machine s (.subscribe "a" none) = some (t, first) ∧
      machine.run t [.resume, .connected fun _ => some (.io .refused)] = some (u, more) ∧
      failure ∈ failuresOf (first ++ more) ∧
      s.roster.keys = ["a"] ∧ s.roster.state? "a" = some .closed ∧
      u.roster.keys = [] ∧ u.roster.state? "a" = none := by
  have hrun : ((machine.run (start Topic.slashed .disabled)
      [.subscribe "a" none, .connected fun _ => none, .occur 0 .event,
        .occur 0 (.signal .ended), .occur 0 .event]).bind fun (s, _) =>
        (machine s (.subscribe "a" none)).bind fun (t, first) =>
          (machine.run t [.resume, .connected fun _ => some (.io .refused)]).map fun (u, more) =>
            (failuresOf (first ++ more), s.roster.keys, s.roster.state? "a", u.roster.keys,
              u.roster.state? "a")) =
      some ([.connection "ws://h/subscribe/a" (.io .refused)], ["a"], some .closed, [], none) := by
    decide +kernel
  obtain ⟨⟨s, reports⟩, hbefore, hrun⟩ := Option.bind_eq_some_iff.mp hrun
  obtain ⟨⟨t, first⟩, hcall, hrun⟩ := Option.bind_eq_some_iff.mp hrun
  obtain ⟨⟨u, more⟩, hrest, hseen⟩ := Option.map_eq_some_iff.mp hrun
  simp only [Prod.mk.injEq] at hseen
  obtain ⟨hfailures, hseen⟩ := hseen
  refine ⟨s, t, u, reports, first, more, .connection "ws://h/subscribe/a" (.io .refused), hbefore,
    hcall, hrest, ?_, hseen⟩
  rw [hfailures]
  exact List.mem_singleton_self _

end Service

end FeedRelay.Feed
