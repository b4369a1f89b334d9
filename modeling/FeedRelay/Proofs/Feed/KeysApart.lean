import FeedRelay.Proofs.Feed.KeyMirror

/-!
# Keys do not interfere

Each move of a service of many keys is seen from a key as one move of its mirror, or not at all
(`Service.Matched`). So all that can be seen of a key in a run can be seen in a run of a service
that serves this key only (`Service.keys_do_not_interfere`): what goes wrong under another key
never adds, drops or reorders anything under this one.
-/

namespace FeedRelay.Feed.Service

variable {s s' t t' : Service} {key : String} {move : Move} {reports : List Report} {m n : Nat}
  {f : Follower} {topic : Topic}

/-! ### The moves of one key -/

/-- What no task does is reported as the return of a call. -/
theorem returned_of_machine (h : machine s move = some (s', reports))
    (hmove : ∀ n occurrence, move ≠ .occur n occurrence) :
    ∀ report ∈ reports, ∃ outcome, report = .returned outcome := by
  intro report hr
  cases change_of_machine h with
  | refuse | answer | reach | proceed | dropped | fail | replace | leave => simp_all
  | @shutdown order => cases order <;> simp_all [Service.clear]
  | @clear n rest => cases rest <;> simp_all [Service.clear]
  | follow =>
    rw [reports_follow] at hr
    exact ⟨_, List.mem_singleton.mp hr⟩
  | occur => exact absurd rfl (hmove _ _)

/-- Of the returns of a call as much can be seen as it concerns the key. -/
theorem glimpses_congr {own : Move}
    (hreports : ∀ report ∈ reports, ∃ outcome, report = .returned outcome)
    (hconcerns : t.concerns key own = s.concerns key move) :
    reports.filterMap (t.glimpse? key own) = reports.filterMap (s.glimpse? key move) := by
  refine List.filterMap_congr fun report hreport => ?_
  obtain ⟨outcome, rfl⟩ := hreports report hreport
  rw [glimpse?, hconcerns, glimpse?]

theorem glimpses_eq_nil (hreports : ∀ report ∈ reports, ∃ outcome, report = .returned outcome)
    (hconcerns : s.concerns key move = false) : reports.filterMap (s.glimpse? key move) = [] := by
  refine List.filterMap_eq_nil_iff.mpr fun report hreport => ?_
  obtain ⟨outcome, rfl⟩ := hreports report hreport
  rw [glimpse?, hconcerns]
  rfl

/-- A move, seen from a key: a service of this key only does nothing, or it makes one move of which
as much can be seen. -/
inductive Matched (key : String) (s t : Service) (move : Move) (s' : Service)
    (reports : List Report) : Prop
  | rest (hmirrors : s'.Mirrors key t) (hincoming : s.incoming key move = [])
      (hreports : reports.filterMap (s.glimpse? key move) = [])
  | step {own : Move} {t' : Service} {returned : List Report}
      (hown : machine t own = some (t', returned)) (hfor : own.isFor key = true)
      (hmirrors : s'.Mirrors key t') (hincoming : t.incoming key own = s.incoming key move)
      (hreports : returned.filterMap (t.glimpse? key own) =
        reports.filterMap (s.glimpse? key move))

namespace Mirrors

theorem call_eq_idle (h : s.Mirrors key t) (hbusy : s.isBusyWith key = false) :
    t.call = .idle := by
  have hcall : s.call.isClearing = false := by
    unfold isBusyWith at hbusy
    split at hbusy
    all_goals simp_all [Call.isClearing]
  rw [h.call_eq hcall, callOf, hbusy]
  rfl

theorem isBusyWith_of_idle (hidle : s.call = .idle) : s.isBusyWith key = false := by
  rw [isBusyWith, hidle]

private theorem ask_of_live (h : s.roster.isLive topic.displayKey = true) : s.ask topic =
    (s, [.returned (.subscribed (.error (.alreadySubscribed topic.displayKey)))]) :=
  if_pos h

private theorem ask_of_entry (h : s.roster.isLive topic.displayKey = false)
    (hn : s.entryOf topic.displayKey = some n) :
    s.ask topic = (s.takeDown topic.displayKey n (.replacing topic n), []) := by
  unfold ask
  rw [if_neg (ne_true_of_eq_false h), hn]

private theorem ask_of_none (h : s.roster.isLive topic.displayKey = false)
    (hn : s.entryOf topic.displayKey = none) :
    s.ask topic = ({ s with call := .connecting topic }, []) := by
  unfold ask
  rw [if_neg (ne_true_of_eq_false h), hn]

/-- A subscription to the key begins with both services alike. -/
private theorem ask (h : s.Mirrors key t) (hs : s.Orderly) (ht : t.Orderly)
    (hkey : topic.displayKey = key) :
    (s.ask topic).1.Mirrors key (t.ask topic).1 ∧ (t.ask topic).2 = (s.ask topic).2 := by
  subst hkey
  have hlive := h.isLive_eq hs ht
  have hentry := h.entryOf_eq hs
  cases hl : s.roster.isLive topic.displayKey with
  | true =>
    rw [ask_of_live hl, ask_of_live (hlive.trans hl)]
    exact ⟨h, rfl⟩
  | false =>
    cases hn : s.entryOf topic.displayKey with
    | none =>
      rw [ask_of_none hl hn, ask_of_none (hlive.trans hl) (hentry.trans (by rw [hn]; rfl))]
      refine ⟨h.changeCall rfl ?_, rfl⟩
      simp [callOf, isBusyWith]
    | some n =>
      rw [ask_of_entry hl hn, ask_of_entry (hlive.trans hl) (hentry.trans (by rw [hn]; rfl))]
      refine ⟨h.takeDown hs rfl ?_ ?_, rfl⟩
      · rw [callOf, isBusyWith, rank_eq (s.followers_takeDown _ _ _)]
        simp [Service.takeDown]
      · rintro _ _ ⟨⟩
        exact (entryOf_eq_some hn).2

/-- A subscription to another key begins, with nothing to be seen. -/
private theorem ask_of_ne (h : s.Mirrors key t) (hidle : s.call = .idle)
    (hkey : topic.displayKey ≠ key) : (s.ask topic).1.Mirrors key t := by
  have hown := h.call_eq_idle (isBusyWith_of_idle hidle)
  cases hl : s.roster.isLive topic.displayKey with
  | true =>
    rw [ask_of_live hl]
    exact h
  | false =>
    cases hn : s.entryOf topic.displayKey with
    | none =>
      rw [ask_of_none hl hn]
      exact h.changeCall_of_not_busy rfl hown (decide_eq_false hkey)
    | some n =>
      rw [ask_of_entry hl hn]
      refine h.takeDown_of_ne hn hkey hidle rfl ?_ ?_
      · simp [isBusyWith, Service.takeDown, hkey]
      · rintro _ _ ⟨⟩
        exact (entryOf_eq_some hn).2

/-- A service is asked for a topic. -/
private theorem matched_ask (h : s.Mirrors key t) (hs : s.Orderly) (ht : t.Orderly)
    (hidle : s.call = .idle)
    (hmachine : ∀ u : Service, u.call = .idle →
      machine u move = some ((u.ask topic).1, (u.ask topic).2))
    (hfor : move.isFor key = decide (topic.displayKey = key))
    (hconcerns : ∀ u : Service, u.concerns key move = move.isFor key)
    (hincoming : ∀ u : Service, u.incoming key move = [])
    (hmove : ∀ n occurrence, move ≠ .occur n occurrence) :
    Matched key s t move (s.ask topic).1 (s.ask topic).2 := by
  have hown := h.call_eq_idle (isBusyWith_of_idle hidle)
  have hreturned := returned_of_machine (hmachine s hidle) hmove
  by_cases hkey : topic.displayKey = key
  · obtain ⟨hmirrors, hreports⟩ := h.ask hs ht hkey
    refine .step (hmachine t hown) (hfor.trans (decide_eq_true hkey)) hmirrors ?_ ?_
    · rw [hincoming, hincoming]
    · rw [hreports]
      exact glimpses_congr hreturned (by rw [hconcerns, hconcerns])
  · refine .rest (h.ask_of_ne hidle hkey) (hincoming s) (glimpses_eq_nil hreturned ?_)
    rw [hconcerns, hfor, decide_eq_false hkey]

/-- A service is told to drop a key. -/
private theorem matched_leave (h : s.Mirrors key t) (hs : s.Orderly) (hidle : s.call = .idle)
    {other : String} (hstep : machine s (.unsubscribe other) = some (s', reports)) :
    Matched key s t (.unsubscribe other) s' reports := by
  have hown := h.call_eq_idle (isBusyWith_of_idle hidle)
  have hreturned := returned_of_machine hstep (by simp)
  have hleave (u : Service) (hu : u.call = .idle) :
      machine u (.unsubscribe other) = some ((u.leave other).1, (u.leave other).2) := by
    rw [machine, hu]
    rfl
  rw [hleave s hidle] at hstep
  obtain ⟨rfl, rfl⟩ := Prod.mk.inj (Option.some.inj hstep)
  by_cases hkey : other = key
  · subst hkey
    have hentry := h.entryOf_eq hs
    have hboth : (s.leave other).1.Mirrors other (t.leave other).1 ∧
        (t.leave other).2 = (s.leave other).2 := by
      unfold leave
      cases hn : s.entryOf other with
      | none =>
        rw [hentry.trans (by rw [hn])]
        exact ⟨h, rfl⟩
      | some n =>
        have hdropped : (s.takeDown other n (.dropping n)).keyOf n = other := by
          rw [keyOf_eq (s.followers_takeDown _ _ _)]
          exact (entryOf_eq_some hn).2
        rw [hentry.trans (by rw [hn])]
        refine ⟨h.takeDown hs rfl ?_ fun _ _ h => (by cases h), rfl⟩
        rw [callOf, isBusyWith, rank_eq (s.followers_takeDown _ _ _)]
        change _ = if decide (_ = _) then _ else _
        rw [hdropped]
        simp [Service.takeDown]
    refine .step (hleave t hown) (decide_eq_true rfl) hboth.1 rfl ?_
    rw [hboth.2]
    exact glimpses_congr hreturned rfl
  · refine .rest ?_ rfl (glimpses_eq_nil hreturned (decide_eq_false hkey))
    unfold leave
    cases hn : s.entryOf other with
    | none => exact h
    | some n =>
      refine h.takeDown_of_ne hn hkey hidle rfl ?_ fun _ _ h => (by cases h)
      change decide ((s.takeDown other n (.dropping n)).keyOf n = key) = false
      rw [keyOf_eq (s.followers_takeDown _ _ _), (entryOf_eq_some hn).2]
      exact decide_eq_false hkey

private theorem withoutEntries (h : s.entries = []) : ({ s with entries := [] } : Service) = s := by
  rw [← h]

/-- A service is told to tear all tasks down. -/
private theorem matched_shutdown (h : s.Mirrors key t) (hs : s.Orderly) (hidle : s.call = .idle)
    {order : List Nat} (horder : order.Perm s.entries)
    (hstep : machine s (.shutdown order) =
      some ((({ s with entries := [] } : Service).clear order).1,
        (({ s with entries := [] } : Service).clear order).2)) :
    Matched key s t (.shutdown order) (({ s with entries := [] } : Service).clear order).1
      (({ s with entries := [] } : Service).clear order).2 := by
  have hown := h.call_eq_idle (isBusyWith_of_idle hidle)
  have hreturned := returned_of_machine hstep (by simp)
  have hclear : machine t (.shutdown t.entries) =
      some ((({ t with entries := [] } : Service).clear t.entries).1,
        (({ t with entries := [] } : Service).clear t.entries).2) := by
    rw [machine, if_pos ⟨by rw [hown]; rfl, List.Perm.refl _⟩]
  cases order with
  | nil =>
    have hentries : s.entries = [] := horder.symm.eq_nil
    have hnone : t.entries = [] := h.entries_eq_nil (entryOf_eq_none (by rw [hentries]; simp))
    rw [withoutEntries hnone, hnone] at hclear
    rw [withoutEntries hentries] at hreturned ⊢
    exact .step hclear rfl (h.changeCall rfl rfl) rfl (glimpses_congr hreturned rfl)
  | cons n rest =>
    cases hk : s.entryOf key with
    | none => exact .rest (h.shutdown_of_none hidle hk horder) rfl rfl
    | some k =>
      have hentries : t.entries = [s.rank key k] := by
        rw [h.entries_eq, hk]
        rfl
      rw [hentries] at hclear
      exact .step hclear rfl (h.shutdown hs hk horder) rfl rfl

theorem exists_awaited (hs : s.Orderly) (hn : n ∈ s.call.awaited) :
    ∃ f, s.follower? n = some f :=
  exists_follower? (hs.lt_length n (List.mem_append_right _ hn))

/-- The task in whose place a topic will be followed is over. -/
private theorem matched_proceed (h : s.Mirrors key t) (hs : s.Orderly)
    (hcall : s.call = .replacing topic n) (hover : s.isOver n = true) :
    Matched key s t .resume { s with call := .connecting topic } [] := by
  obtain ⟨f, hf⟩ := exists_awaited hs (by rw [hcall]; exact List.mem_singleton_self n)
  have hfkey : f.key = topic.displayKey :=
    (keyOf_of_follower? hf).symm.trans (h.replaced topic n hcall)
  by_cases hkey : topic.displayKey = key
  · have hown : t.call = .replacing topic (s.rank key n) := by
      rw [h.call_eq (by rw [hcall]; rfl)]
      simp [callOf, isBusyWith, hcall, hkey]
    have hresume : machine t .resume = some ({ t with call := .connecting topic }, []) := by
      rw [machine, Service.resume, hown]
      exact if_pos ((h.isOver_rank hf (hfkey.trans hkey)).trans hover)
    refine .step hresume rfl (h.changeCall rfl ?_) rfl rfl
    simp [callOf, isBusyWith, hkey]
  · have hbusy : s.isBusyWith key = false := by
      rw [isBusyWith, hcall]
      exact decide_eq_false hkey
    exact .rest (h.changeCall_of_not_busy rfl (h.call_eq_idle hbusy) (decide_eq_false hkey)) rfl rfl

/-- The task that a call drops is over. -/
private theorem matched_dropped (h : s.Mirrors key t) (hs : s.Orderly)
    (hcall : s.call = .dropping n) (hover : s.isOver n = true) :
    Matched key s t .resume { s with call := .idle } [.returned (.unsubscribed true)] := by
  obtain ⟨f, hf⟩ := exists_awaited hs (by rw [hcall]; exact List.mem_singleton_self n)
  by_cases hkey : s.keyOf n = key
  · have hfkey : f.key = key := (keyOf_of_follower? hf).symm.trans hkey
    have hown : t.call = .dropping (s.rank key n) := by
      rw [h.call_eq (by rw [hcall]; rfl)]
      simp [callOf, isBusyWith, hcall, hkey]
    have hresume : machine t .resume =
        some ({ t with call := .idle }, [.returned (.unsubscribed true)]) := by
      rw [machine, Service.resume, hown]
      exact if_pos ((h.isOver_rank hf hfkey).trans hover)
    refine .step hresume rfl (h.changeCall rfl rfl) rfl
      (glimpses_congr (by simp) ?_)
    simp [concerns, isBusyWith, hcall, hown, hkey, h.keyOf_rank hf hfkey]
  · have hbusy : s.isBusyWith key = false := by
      rw [isBusyWith, hcall]
      exact decide_eq_false hkey
    exact .rest (h.changeCall_of_not_busy rfl (h.call_eq_idle hbusy) rfl) rfl
      (glimpses_eq_nil (by simp) hbusy)

/-- One of the tasks that are torn down is over. The service of one key goes on when all are. -/
private theorem matched_clear (h : s.Mirrors key t) {rest : List Nat}
    (hcall : s.call = .clearing n rest) (hlast : (s.clear rest).1.Orderly) :
    Matched key s t .resume (s.clear rest).1 (s.clear rest).2 := by
  obtain ⟨hentries, hdone⟩ := h.clearing (by rw [hcall]; rfl)
  cases rest with
  | cons m rest => exact .rest (h.clear_cons hcall) rfl rfl
  | nil =>
    have hnone : t.entries = [] := h.entries_eq_nil (entryOf_eq_none (by rw [hentries]; simp))
    have hmirrors : (s.clear []).1.Mirrors key { t with call := .idle } :=
      h.changeCall rfl rfl
    have hbusy : s.concerns key .resume = true := by
      rw [concerns, isBusyWith, hcall]
    have hreturned : ∀ report ∈ (s.clear []).2, ∃ outcome, report = .returned outcome := by
      rintro _ (_ | ⟨_, ⟨⟩⟩)
      exact ⟨_, rfl⟩
    rcases hdone with hidle | ⟨k, f, hf, hfkey, hclearing⟩
    · have hclear : machine t (.shutdown []) = some ({ t with call := .idle }, (s.clear []).2) := by
        rw [machine, if_pos ⟨by rw [hidle]; rfl, by rw [hnone]⟩, withoutEntries hnone]
        rfl
      exact .step hclear rfl hmirrors rfl (glimpses_congr hreturned hbusy.symm)
    · have hover : f.isOver = true := by
        refine hlast.isOver_of_notMem rfl hf ?_
        rw [entries_clear, hentries]
        exact List.not_mem_nil
      have hresume : machine t .resume = some ({ t with call := .idle }, (s.clear []).2) := by
        rw [machine, Service.resume, hclearing]
        refine if_pos ?_
        rw [isOver, h.follower?_rank hf hfkey]
        exact hover
      refine .step hresume rfl hmirrors rfl (glimpses_congr hreturned ?_)
      rw [hbusy, concerns, isBusyWith, hclearing]

/-- A topic of the key is followed by both services. -/
private theorem connected (h : s.Mirrors key t) (hs : s.Orderly) (hbase : t.base = s.base)
    (hpolicy : t.policy = s.policy) (network : Connect) (hcall : s.call = .connecting topic)
    (hkey : topic.displayKey = key) :
    (s.connected topic network).1.Mirrors key (t.connected topic network).1 ∧
      (t.connected topic network).2 = (s.connected topic network).2 := by
  have hfollow (url : Option Url) : (s.follow topic url).1.Mirrors key (t.follow topic url).1 ∧
      (t.follow topic url).2 = (s.follow topic url).2 :=
    ⟨h.follow hs hcall hkey hpolicy url, by rw [reports_follow, reports_follow, hpolicy]⟩
  have hidle : ({ s with call := .idle } : Service).Mirrors key { t with call := .idle } :=
    h.changeCall rfl rfl
  rw [hbase, hpolicy] at hidle
  unfold Service.connected
  rw [hbase, hpolicy]
  split
  · exact hfollow _
  · split
    · exact hfollow _
    · exact ⟨hidle, rfl⟩

/-- An attempt to connect that a call made comes out. -/
private theorem matched_connected (h : s.Mirrors key t) (hs : s.Orderly) (hbase : t.base = s.base)
    (hpolicy : t.policy = s.policy) {network : Connect} (hcall : s.call = .connecting topic)
    (hstep : machine s (.connected network) =
      some ((s.connected topic network).1, (s.connected topic network).2)) :
    Matched key s t (.connected network) (s.connected topic network).1
      (s.connected topic network).2 := by
  have hreturned := returned_of_machine hstep (by simp)
  by_cases hkey : topic.displayKey = key
  · have hown : t.call = .connecting topic := by
      rw [h.call_eq (by rw [hcall]; rfl)]
      simp [callOf, isBusyWith, hcall, hkey]
    have hconnected : machine t (.connected network) =
        some ((t.connected topic network).1, (t.connected topic network).2) := by
      rw [machine, hown]
    obtain ⟨hmirrors, hreports⟩ := h.connected hs hbase hpolicy network hcall hkey
    refine .step hconnected rfl hmirrors ?_ ?_
    · rw [incoming, hown, incoming, hcall, hbase]
    · rw [hreports]
      refine glimpses_congr hreturned ?_
      rw [concerns, isBusyWith, hown, concerns, isBusyWith, hcall]
  · have hbusy : s.isBusyWith key = false := by
      rw [isBusyWith, hcall]
      exact decide_eq_false hkey
    refine .rest ?_ ?_ (glimpses_eq_nil hreturned hbusy)
    · unfold Service.connected
      split
      · exact h.follow_of_ne hs hcall hkey _
      · split
        · exact h.follow_of_ne hs hcall hkey _
        · exact h.changeCall_of_not_busy rfl (h.call_eq_idle hbusy) rfl
    · rw [incoming, hcall]
      exact if_neg hkey

/-- Something happens to a task. -/
private theorem matched_occur (h : s.Mirrors key t) (hs : s.Orderly) {occurrence : Occurrence}
    {task : Task} {g : Follower} {actions : List Action} (htask : s.tasks[n]? = some task)
    (hhears : task.hears occurrence = true)
    (hstep : task.follower.step occurrence = some (g, actions)) :
    Matched key s t (.occur n occurrence) (s.put n (task.goOn g))
      ((toldOf actions).map fun (topic, event) => .told n topic event) := by
  have hspec := (hs.sound n task htask).follower.step_spec hstep
  have hgkey : g.key = task.follower.key := congrArg Topic.displayKey hspec.topic_eq
  have hf : s.follower? n = some task.follower := follower?_eq_some.mpr ⟨task, htask, rfl⟩
  obtain ⟨events, -, hevents⟩ := hspec.change
  by_cases hkey : task.follower.key = key
  · obtain ⟨own, hown, hfollower⟩ := follower?_eq_some.mp (h.follower?_rank hf hkey)
    have hownhears : own.hears occurrence = true := by
      cases occurrence with
      | stop =>
        have hdismissed := h.dismissed n task.follower hf hkey (Or.inl (by
          rw [isDismissed, htask]
          exact hhears))
        rw [isDismissed, hown] at hdismissed
        exact hdismissed
      | _ => rfl
    have hoccur : machine t (.occur (s.rank key n) occurrence) =
        some (t.put (s.rank key n) (own.goOn g),
          (toldOf actions).map fun (topic, event) => .told (s.rank key n) topic event) := by
      rw [machine, Service.occur, hown, Option.bind_some, if_pos hownhears, hfollower, hstep]
      rfl
    refine .step hoccur rfl (h.put htask hgkey rfl hown rfl rfl hkey) ?_ ?_
    · rw [incoming, h.keyOf_rank hf hkey, if_pos rfl, h.rank_rank hf hkey, incoming,
        keyOf_of_follower? hf, if_pos hkey]
    · rw [List.filterMap_map, List.filterMap_map]
      refine List.filterMap_congr fun told _ => ?_
      simp only [Function.comp_apply, glimpse?, h.rank_rank hf hkey]
  · refine .rest (h.put_of_ne htask hgkey rfl hkey) ?_ ?_
    · rw [incoming, keyOf_of_follower? hf, if_neg hkey]
    · rw [hevents, List.map_map, List.filterMap_map]
      refine List.filterMap_eq_nil_iff.mpr fun event _ => ?_
      exact if_neg hkey

/-- Each move of a service is matched by one of the service of one key, or nothing is to be seen
of it. -/
theorem matched (h : s.Mirrors key t) (hs : s.Orderly) (ht : t.Orderly) (hbase : t.base = s.base)
    (hpolicy : t.policy = s.policy) (hstep : machine s move = some (s', reports)) :
    Matched key s t move s' reports := by
  cases move with
  | subscribe name instanceId =>
    obtain ⟨hidle, heq⟩ := Option.ite_none_right_eq_some.mp hstep
    split at heq
    · rename_i topic htopic
      obtain ⟨rfl, rfl⟩ := Prod.mk.inj (Option.some.inj heq)
      refine h.matched_ask hs ht (Call.eq_idle hidle) (fun u hu => ?_) ?_ (fun u => rfl)
        (fun u => rfl) (by simp)
      · rw [machine, hu, htopic]
        rfl
      · rw [Move.isFor, htopic]
        rfl
    · -- A text that names no topic concerns no key.
      rename_i fault htopic
      obtain ⟨rfl, rfl⟩ := Prod.mk.inj (Option.some.inj heq)
      refine .rest h rfl (glimpses_eq_nil (by simp) ?_)
      change Move.isFor key (.subscribe name instanceId) = false
      rw [Move.isFor, htopic]
      rfl
  | subscribeTopic topic =>
    obtain ⟨hidle, heq⟩ := Option.ite_none_right_eq_some.mp hstep
    obtain ⟨rfl, rfl⟩ := Prod.mk.inj (Option.some.inj heq)
    refine h.matched_ask hs ht (Call.eq_idle hidle) (fun u hu => ?_) rfl (fun u => rfl)
      (fun u => rfl) (by simp)
    rw [machine, hu]
    rfl
  | unsubscribe other =>
    obtain ⟨hidle, -⟩ := Option.ite_none_right_eq_some.mp hstep
    exact h.matched_leave hs (Call.eq_idle hidle) hstep
  | shutdown order =>
    obtain ⟨⟨hidle, horder⟩, heq⟩ := Option.ite_none_right_eq_some.mp hstep
    obtain ⟨rfl, rfl⟩ := Prod.mk.inj (Option.some.inj heq)
    exact h.matched_shutdown hs (Call.eq_idle hidle) horder hstep
  | resume =>
    have hs' := hs.step hstep
    change s.resume = some (s', reports) at hstep
    unfold Service.resume at hstep
    split at hstep
    · rename_i topic n hcall
      obtain ⟨hover, heq⟩ := Option.ite_none_right_eq_some.mp hstep
      obtain ⟨rfl, rfl⟩ := Prod.mk.inj (Option.some.inj heq)
      exact h.matched_proceed hs hcall hover
    · rename_i n hcall
      obtain ⟨hover, heq⟩ := Option.ite_none_right_eq_some.mp hstep
      obtain ⟨rfl, rfl⟩ := Prod.mk.inj (Option.some.inj heq)
      exact h.matched_dropped hs hcall hover
    · rename_i n rest hcall
      obtain ⟨-, heq⟩ := Option.ite_none_right_eq_some.mp hstep
      obtain ⟨rfl, rfl⟩ := Prod.mk.inj (Option.some.inj heq)
      exact h.matched_clear hcall hs'
    · cases hstep
  | connected network =>
    rw [machine] at hstep
    split at hstep
    · rename_i topic hcall
      obtain ⟨rfl, rfl⟩ := Prod.mk.inj (Option.some.inj hstep)
      refine h.matched_connected hs hbase hpolicy hcall ?_
      rw [machine, hcall]
    · cases hstep
  | occur n occurrence =>
    obtain ⟨task, htask, heq⟩ := Option.bind_eq_some_iff.mp hstep
    obtain ⟨hhears, heq⟩ := Option.ite_none_right_eq_some.mp heq
    obtain ⟨⟨g, actions⟩, hmove, heq⟩ := Option.map_eq_some_iff.mp heq
    obtain ⟨rfl, rfl⟩ := Prod.mk.inj heq
    exact h.matched_occur hs htask hhears hmove

end Mirrors

/-- A move leaves the service of one key with as much to be seen of it, whether that service makes
a move or not. -/
theorem Mirrors.exists_watched (h : s.Mirrors key t) (hs : s.Orderly) (ht : t.Orderly)
    (hbase : t.base = s.base) (hpolicy : t.policy = s.policy) {glimpses : List Glimpse}
    (hstep : watch key s move = some (s', glimpses)) :
    ∃ own t', (∀ move ∈ own, Move.isFor key move = true) ∧
      (watch key).run t own = some (t', glimpses) ∧ s'.Mirrors key t' ∧ t'.Orderly ∧
      t'.base = t.base ∧ t'.policy = t.policy := by
  obtain ⟨reports, hmachine, rfl⟩ := watch_eq_some.mp hstep
  have hs' := hs.step hmachine
  cases h.matched hs ht hbase hpolicy hmachine with
  | rest hmirrors hincoming hreports =>
    refine ⟨[], t, by simp, ?_, hmirrors, ht, rfl, rfl⟩
    have hstill : s.standing s' key = [] := by
      rw [← h.standing_eq hmirrors hs ht hs' ht, standing, if_pos ⟨rfl, rfl⟩]
    rw [hincoming, hreports, hstill]
    rfl
  | @step own t' returned hown hfor hmirrors hincoming hreports =>
    have ht' := ht.step hown
    refine ⟨[own], t', by simpa using hfor, ?_, hmirrors, ht', settings_of_machine hown⟩
    rw [Machine.run_singleton, watch_eq_some]
    exact ⟨returned, hown, by rw [hincoming, hreports, h.standing_eq hmirrors hs ht hs' ht']⟩

/-- Each run leaves a service of one key, in a run of its own, with as much to be seen of it. -/
theorem exists_own_of_run {base : Url} {policy : ReconnectPolicy} {moves : List Move}
    {glimpses : List Glimpse} (h : (watch key).run (start base policy) moves = some (s, glimpses)) :
    s.Orderly ∧ s.base = base ∧ s.policy = policy ∧
      ∃ own t, (∀ move ∈ own, Move.isFor key move = true) ∧
        (watch key).run (start base policy) own = some (t, glimpses) ∧ s.Mirrors key t ∧
        t.Orderly ∧ t.base = base ∧ t.policy = policy := by
  refine Machine.run_induction
    (motive := fun _ s glimpses => s.Orderly ∧ s.base = base ∧ s.policy = policy ∧
      ∃ own t, (∀ move ∈ own, Move.isFor key move = true) ∧
        (watch key).run (start base policy) own = some (t, glimpses) ∧ s.Mirrors key t ∧
        t.Orderly ∧ t.base = base ∧ t.policy = policy)
    ⟨orderly_start base policy, rfl, rfl, [], start base policy, by simp, rfl,
      mirrors_start base policy key, orderly_start base policy, rfl, rfl⟩ ?_ h
  rintro moves s glimpses move s' more - ⟨hs, hbase, hpolicy, own, t, hfor, hrun, hmirrors, ht,
    htbase, htpolicy⟩ hstep
  obtain ⟨reports, hmachine, -⟩ := watch_eq_some.mp hstep
  obtain ⟨hbase', hpolicy'⟩ := settings_of_machine hmachine
  obtain ⟨later, t', hlater, hrun', hmirrors', ht', htbase', htpolicy'⟩ :=
    hmirrors.exists_watched hs ht (htbase.trans hbase.symm) (htpolicy.trans hpolicy.symm) hstep
  refine ⟨hs.step hmachine, hbase'.trans hbase, hpolicy'.trans hpolicy, own ++ later, t', ?_,
    (watch key).run_append hrun hrun', hmirrors', ht', htbase'.trans htbase,
    htpolicy'.trans htpolicy⟩
  intro move hmove
  exact (List.mem_append.mp hmove).elim (hfor move) (hlater move)

/-- **Keys do not interfere.** Whatever a service of many keys does, all that can be seen of one of
them, in its order, can be seen of a run of a service with the same address and policy in which no
call is made for another key: the same happens to the tasks of the key, the same attempts to connect
for it come out the same way, the handler is told the same, the key and its tasks stand where they
stand at every moment, and the calls that concern it return the same. The tasks of the key are the
only ones of that run, the key stands where it stands, and that service makes no call when none is
made. -/
theorem keys_do_not_interfere {base : Url} {policy : ReconnectPolicy} {moves : List Move}
    (h : machine.run (start base policy) moves = some (s, reports)) (key : String) :
    ∃ glimpses own t, (watch key).run (start base policy) moves = some (s, glimpses) ∧
      (∀ move ∈ own, Move.isFor key move = true) ∧
      (watch key).run (start base policy) own = some (t, glimpses) ∧
      t.followers = s.followers.filter (·.key = key) ∧
      t.roster.state? key = s.roster.state? key ∧
      (s.call.isIdle = true → t.call.isIdle = true) := by
  obtain ⟨glimpses, hwatch⟩ := exists_watch_run key h
  obtain ⟨hs, -, -, own, t, hfor, hrun, hmirrors, ht, -, -⟩ := exists_own_of_run hwatch
  refine ⟨glimpses, own, t, hwatch, hfor, hrun, hmirrors.followers_eq, hmirrors.state?_eq hs ht,
    fun hidle => ?_⟩
  rw [hmirrors.call_eq_idle (Mirrors.isBusyWith_of_idle (Call.eq_idle hidle))]
  rfl

/-- What may happen to a service of two topics. The upstream of the second one refuses it, then
takes it and goes away; the first one is followed all the while, until all is torn down. -/
def bystander (topic other : Topic) : List Move :=
  [.subscribeTopic topic, .connected fun _ => none, .occur 0 .event, .subscribeTopic other,
    .connected fun _ => some (.io .refused), .subscribeTopic other, .connected fun _ => none,
    .occur 0 (.signal (.frame (.binary [1]))), .occur 1 .event, .occur 1 (.signal .ended),
    .occur 1 .event, .occur 0 .event, .unsubscribe other.displayKey, .resume, .shutdown [0],
    .occur 0 .stop, .occur 0 (.signal .stop), .occur 0 .event, .resume]

/-- The events of a key that glimpses tell of. -/
def eventsIn (glimpses : List Glimpse) : List Event :=
  glimpses.filterMap fun
    | .told _ _ event => some event
    | _ => none

/-- What is seen of the first topic is seen of a run with one task, where the other topic does not
occur. -/
theorem watched_of_bystander :
    ∃ s glimpses own t,
      (watch "a").run (start Topic.slashed .disabled)
        (bystander ⟨"a", none, none, []⟩ ⟨"b", none, none, []⟩) = some (s, glimpses) ∧
      eventsIn glimpses = [.opened, .message ⟨"a", .binary [1]⟩, .closed .requested] ∧
      s.tasks.length = 2 ∧ (∀ move ∈ own, Move.isFor "a" move = true) ∧
      (watch "a").run (start Topic.slashed .disabled) own =
        some (t, glimpses) ∧ t.tasks.length = 1 := by
  have hwatch : ((watch "a").run (start Topic.slashed .disabled)
      (bystander ⟨"a", none, none, []⟩ ⟨"b", none, none, []⟩)).map (fun (s, glimpses) =>
        (eventsIn glimpses, s.tasks.length, (s.followers.filter (·.key = "a")).length)) =
      some ([.opened, .message ⟨"a", .binary [1]⟩, .closed .requested], 2, 1) := by
    decide +kernel
  have hrun : ((machine.run (start Topic.slashed .disabled)
      (bystander ⟨"a", none, none, []⟩ ⟨"b", none, none, []⟩)).isSome) = true := by
    decide +kernel
  obtain ⟨⟨s, glimpses⟩, hwatch, hseen⟩ := Option.map_eq_some_iff.mp hwatch
  obtain ⟨hevents, hseen⟩ := Prod.mk.inj hseen
  obtain ⟨htasks, hlength⟩ := Prod.mk.inj hseen
  obtain ⟨⟨s', reports⟩, hrun⟩ := Option.isSome_iff_exists.mp hrun
  obtain ⟨glimpses', own, t, hwatch', hfor, hown, hfollowers, -⟩ :=
    keys_do_not_interfere hrun "a"
  obtain ⟨rfl, rfl⟩ := Prod.mk.inj (Option.some.inj (hwatch'.symm.trans hwatch))
  refine ⟨s', glimpses', own, t, hwatch, hevents, htasks, hfor, hown, ?_⟩
  rw [← length_followers, hfollowers]
  exact hlength

end FeedRelay.Feed.Service
