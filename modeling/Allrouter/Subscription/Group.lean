import Allrouter.Subscription.Issue

/-!
# The group of a subscriber

A plan may move its subscribers to another group. A subscription remembers the group that its
user was in when it was issued, unless that was the group of the plan already, and the
user is moved back when it ends, by the expiry sweep or by an administrator.

* `group_restored_of_alone`: when all the subscriptions that move a user have ended, and the
  sweep has run, the user is back in the first group, as long as none of them was issued
  while another one was active;
* `group_kept_of_renewal`: a subscription that is renewed before it ends leaves the user in
  the group of the plan for good.
-/

namespace Allrouter

open Civil Text List Table Except

/-! ## Moves of a user -/

/-- A subscription, with the groups it moves its user between. -/
structure GroupSubscription extends UserSubscription where
  (upgradeGroup prevUserGroup : String := "")
  deriving DecidableEq

/-- A user with the group and the subscriptions. -/
structure GroupState where
  userId : ℤ
  providerId : ℤ := 0
  group : String
  subscriptions : List GroupSubscription := []
  /-- The key of the next subscription. -/
  nextId : ℤ := 1

namespace GroupSubscription

variable (row : GroupSubscription)

/-- The subscription moves its user, at the time `now`. -/
def upgrades (now : ℤ) : Bool :=
  row.status = .active && row.startTime ≤ now && row.endTime > now && row.upgradeGroup ≠ ""

/-- The sweep is to end the subscription. -/
def due (now : ℤ) : Bool := row.status = .active && row.endTime > 0 && row.endTime ≤ now

def cancel (now : ℤ) : GroupSubscription := { row with status := .cancelled, endTime := now }

def expire (now : ℤ) : GroupSubscription :=
  if row.due now then { row with status := .expired } else row

end GroupSubscription

open GroupSubscription

namespace GroupState

variable (s : GroupState)

/-- Issues a subscription to a plan, which moves its user to `planUpgradeGroup` if there is one. -/
def issue (loc : Location) (plan : SubscriptionPlan) (planUpgradeGroup : String) (now : ℤ) :
    Except Error GroupState := do
  let sub ← issueSubscription loc plan s.nextId s.userId s.providerId now
  let upgradeGroup := trimSpace planUpgradeGroup
  let moves : Bool := upgradeGroup ≠ "" && s.group ≠ upgradeGroup
  pure
    { s with
      group := if moves then upgradeGroup else s.group
      subscriptions := s.subscriptions ++
        [{ sub with upgradeGroup := upgradeGroup, prevUserGroup := if moves then s.group else "" }]
      nextId := s.nextId + 1 }

/-- Moves the user back from where `sub` has moved them, unless another subscription moves
    them as well. -/
def downgradeUserGroupForSubscription (sub : GroupSubscription) (now : ℤ) : GroupState :=
  let upgradeGroup := trimSpace sub.upgradeGroup
  let prevGroup := trimSpace sub.prevUserGroup
  if upgradeGroup = "" then s
  else if s.group ≠ upgradeGroup then s
  else if s.subscriptions.any fun row => row.id ≠ sub.id && row.upgrades now then s
  else if prevGroup = "" ∨ prevGroup = s.group then s
  else { s with group := prevGroup }

def adminInvalidateUserSubscription (userSubscriptionId now : ℤ) : Except Error GroupState :=
  if userSubscriptionId ≤ 0 then .error (.text "invalid userSubscriptionId")
  else match get? (fun row : GroupSubscription => row.id) userSubscriptionId s.subscriptions with
    | none => .error .recordNotFound
    | some sub =>
      let cancelled : GroupState :=
        { s with subscriptions := put (fun row => row.id) (sub.cancel now) s.subscriptions }
      .ok (cancelled.downgradeUserGroupForSubscription sub now)

def adminDeleteUserSubscription (userSubscriptionId now : ℤ) : Except Error GroupState :=
  if userSubscriptionId ≤ 0 then .error (.text "invalid userSubscriptionId")
  else match get? (fun row : GroupSubscription => row.id) userSubscriptionId s.subscriptions with
    | none => .error .recordNotFound
    | some sub =>
      .ok { s.downgradeUserGroupForSubscription sub now with
        subscriptions := others (fun row => row.id) userSubscriptionId s.subscriptions }

/-- The subscription that has expired last, of those that moved the user. -/
def lastExpired : Option GroupSubscription :=
  (s.subscriptions.filter fun row => row.status = .expired && row.upgradeGroup ≠ "").maxOn?
    fun row => toLex (row.endTime, row.id)

/-- Moves the user back from where the last expired subscription has moved them. -/
def downgradeExpired : GroupState :=
  match s.lastExpired with
  | none => s
  | some last =>
    let upgradeGroup := trimSpace last.upgradeGroup
    let prevGroup := trimSpace last.prevUserGroup
    if upgradeGroup = "" ∨ prevGroup = "" then s
    else if s.group ≠ upgradeGroup ∨ s.group = prevGroup then s
    else { s with group := prevGroup }

def expireDueSubscriptions (now : ℤ) : GroupState :=
  if s.subscriptions.any (·.due now) then
    let expired : GroupState := { s with subscriptions := s.subscriptions.map (·.expire now) }
    if expired.subscriptions.any (·.upgrades now) then expired else expired.downgradeExpired
  else s

end GroupState

open GroupState

/-- What happens to the subscriptions of a user. -/
inductive GroupOp
  | issue (plan : SubscriptionPlan) (planUpgradeGroup : String)
  | invalidate (userSubscriptionId : ℤ)
  | delete (userSubscriptionId : ℤ)
  | expire

def GroupOp.perform (loc : Location) (now : ℤ) (s : GroupState) : GroupOp → Except Error GroupState
  | issue plan planUpgradeGroup => s.issue loc plan planUpgradeGroup now
  | invalidate userSubscriptionId => s.adminInvalidateUserSubscription userSubscriptionId now
  | delete userSubscriptionId => s.adminDeleteUserSubscription userSubscriptionId now
  | expire => .ok (s.expireDueSubscriptions now)

/-- A subscription that is active and moves its user. -/
def GroupSubscription.Holds (row : GroupSubscription) : Prop := row.status = .active ∧
    row.upgradeGroup ≠ ""

instance (row : GroupSubscription) : Decidable row.Holds := inferInstanceAs (Decidable (_ ∧ _))

/-- A subscription that moves its user is issued when no other one is active that does. -/
def GroupOp.Alone (s : GroupState) : GroupOp → Prop
  | issue _ planUpgradeGroup => trimSpace planUpgradeGroup ≠ "" →
    ∀ row ∈ s.subscriptions, ¬row.Holds
  | _ => True

/-- A call is made; one that fails changes nothing. -/
def GroupStep (loc : Location) (now : ℤ) (s s' : GroupState) : Prop :=
  ∃ op : GroupOp, s' = commit s (op.perform loc now s)

def GroupStepAlone (loc : Location) (now : ℤ) (s s' : GroupState) : Prop :=
  ∃ op : GroupOp, op.Alone s ∧ s' = commit s (op.perform loc now s)

/-! ## The invariant -/

/-- What a subscription remembers, in the history of a user whose first group is `group₀`. -/
structure GroupSubscription.Remembers (group₀ : String) (row : GroupSubscription) : Prop where
  upgradeGroup : trimSpace row.upgradeGroup = row.upgradeGroup
  prevUserGroup : row.prevUserGroup = group₀ ∧ row.upgradeGroup ≠ group₀ ∨
    row.prevUserGroup = "" ∧ row.upgradeGroup = group₀

/-- One subscription at most moves the user, and the user is in the first group if none
    does. Those that have expired did so before it was issued. -/
structure GroupInv (group₀ : String) (t : ℤ) (s : GroupState) : Prop where
  keyed : Table.Keyed (fun row : GroupSubscription => row.id) s.subscriptions
  fresh : ∀ row ∈ s.subscriptions, row.id < s.nextId
  time : 0 ≤ t
  remembers : ∀ row ∈ s.subscriptions, row.upgradeGroup ≠ "" → row.Remembers group₀
  active : ∀ row ∈ s.subscriptions, row.Holds → 0 ≤ row.startTime ∧ row.startTime ≤ t ∧
    row.startTime < row.endTime
  expired : ∀ row ∈ s.subscriptions, row.status = .expired → row.upgradeGroup ≠ "" → row.endTime ≤ t
  single : ∀ row ∈ s.subscriptions, ∀ row' ∈ s.subscriptions, row.Holds → row'.Holds → row = row'
  later : ∀ old ∈ s.subscriptions, old.status = .expired → old.upgradeGroup ≠ "" →
    ∀ row ∈ s.subscriptions, row.Holds → old.endTime ≤ row.startTime
  group : s.group = group₀ ∨ ∃ row ∈ s.subscriptions, row.Holds ∧ row.upgradeGroup = s.group ∧
    row.prevUserGroup = group₀

section

variable {loc : Location} {group₀ planUpgradeGroup : String} {t now : ℤ} {s s' : GroupState}
  {sub : GroupSubscription} {plan : SubscriptionPlan}

lemma lt_of_calcPlanEndTime {start endUnix : ℤ}
    (h : calcPlanEndTime loc start plan = .ok endUnix) : start < endUnix := by
  simp only [calcPlanEndTime] at h
  by_cases hduration : plan.durationValue ≤ 0 ∧ plan.durationUnit ≠ "custom"
  · rw [if_pos hduration] at h
    cases h
  rw [if_neg hduration] at h
  split at h
  -- Years and months compare the end with the start, the others add a positive duration.
  case h_1 | h_2 =>
    split_ifs at h
    split at h
    · cases h
    · split_ifs at h
      cases h
      omega
  case h_3 _ hunit | h_4 _ hunit =>
    have hpos : 0 < plan.durationValue := by
      by_contra hle
      exact hduration ⟨not_lt.1 hle, by simp [hunit]⟩
    split_ifs at h
    split at h
    · cases h
    · rename_i hsum
      cases h
      have := eq_add_of_safeAdd hsum
      omega
  case h_5 =>
    split_ifs at h
    split at h
    · cases h
    · rename_i hsum
      cases h
      have := eq_add_of_safeAdd hsum
      omega
  case h_6 => cases h

lemma times_of_issueSubscription {id userId providerId : ℤ} {sub : UserSubscription}
    (h : issueSubscription loc plan id userId providerId now = .ok sub) :
    sub.id = id ∧ sub.status = .active ∧ sub.startTime = now ∧ now < sub.endTime := by
  rw [issueSubscription] at h
  split at h
  · cases h
  · rename_i endUnix hend
    dsimp only at h
    split_ifs at h <;> cases h <;> exact ⟨rfl, rfl, rfl, lt_of_calcPlanEndTime hend⟩

namespace GroupSubscription

variable {row : GroupSubscription}

lemma not_holds_of_status (h : row.status ≠ .active) : ¬row.Holds := fun hold => h hold.1

lemma due_iff : row.due now = true ↔ row.status = .active ∧ 0 < row.endTime ∧
    row.endTime ≤ now := by
  simp [due, and_assoc]

lemma upgrades_iff : row.upgrades now = true ↔ row.Holds ∧ row.startTime ≤ now ∧
    now < row.endTime := by
  simp [upgrades, Holds]
  tauto

lemma expire_cases (row : GroupSubscription) (now : ℤ) :
    row.due now = true ∧ row.expire now = { row with status := .expired } ∨
      row.due now = false ∧ row.expire now = row := by
  rw [expire]
  split <;> simp_all

@[simp] lemma expire_id : (row.expire now).id = row.id := by
  rcases row.expire_cases now with ⟨-, h⟩ | ⟨-, h⟩ <;> rw [h]

@[simp] lemma expire_upgradeGroup : (row.expire now).upgradeGroup = row.upgradeGroup := by
  rcases row.expire_cases now with ⟨-, h⟩ | ⟨-, h⟩ <;> rw [h]

@[simp] lemma expire_endTime : (row.expire now).endTime = row.endTime := by
  rcases row.expire_cases now with ⟨-, h⟩ | ⟨-, h⟩ <;> rw [h]

lemma Remembers.expire (h : row.Remembers group₀) : (row.expire now).Remembers group₀ := by
  rcases row.expire_cases now with ⟨-, heq⟩ | ⟨-, heq⟩ <;> rw [heq]
  · exact ⟨h.upgradeGroup, h.prevUserGroup⟩
  · exact h

lemma Holds.of_expire (h : (row.expire now).Holds) : row.Holds ∧ row.expire now = row ∧
    row.due now = false := by
  rcases row.expire_cases now with ⟨-, heq⟩ | ⟨hdue, heq⟩
  · rw [heq] at h
    exact absurd h (not_holds_of_status (by simp))
  · rw [heq] at h
    exact ⟨h, heq, hdue⟩

lemma expired_of_expire (h : (row.expire now).status = .expired) : row.status = .expired ∨
    row.due now = true := by
  rcases row.expire_cases now with ⟨hdue, -⟩ | ⟨-, heq⟩
  · exact .inr hdue
  · exact .inl (by rwa [heq] at h)

end GroupSubscription

/-! ## Issuance -/

lemma GroupInv.mono (h : GroupInv group₀ t s) (ht : t ≤ now) : GroupInv group₀ now s :=
  { h with
    time := h.time.trans ht
    active := fun row hrow hold =>
      let ⟨h₀, hstart, hend⟩ := h.active row hrow hold
      ⟨h₀, hstart.trans ht, hend⟩
    expired := fun row hrow hexpired hupgrade => (h.expired row hrow hexpired hupgrade).trans ht }

lemma GroupState.issue_eq_ok (h : s.issue loc plan planUpgradeGroup now = .ok s') :
    ∃ row : GroupSubscription,
    row.id = s.nextId ∧ row.status = .active ∧ row.startTime = now ∧ now < row.endTime ∧
    row.upgradeGroup = trimSpace planUpgradeGroup ∧
    s'.subscriptions = s.subscriptions ++ [row] ∧ s'.nextId = s.nextId + 1 ∧
    (row.upgradeGroup ≠ "" ∧ s.group ≠ row.upgradeGroup ∧ row.prevUserGroup = s.group ∧
      s'.group = row.upgradeGroup ∨
      (row.upgradeGroup = "" ∨ s.group = row.upgradeGroup) ∧ row.prevUserGroup = "" ∧
        s'.group = s.group) := by
  obtain ⟨sub, hsub, h⟩ := bind_eq_ok.1 h
  obtain ⟨hid, hstatus, hstart, hend⟩ := times_of_issueSubscription hsub
  by_cases hmoves : trimSpace planUpgradeGroup ≠ "" ∧ s.group ≠ trimSpace planUpgradeGroup
  · obtain rfl := ok.inj h
    exact ⟨_, hid, hstatus, hstart, hend, rfl, rfl, rfl,
      .inl ⟨hmoves.1, hmoves.2, by simp [hmoves], by simp [hmoves]⟩⟩
  · obtain rfl := ok.inj h
    refine ⟨_, hid, hstatus, hstart, hend, rfl, rfl, rfl, .inr ⟨?_, ?_, ?_⟩⟩
    · simpa [or_iff_not_imp_left] using hmoves
    · simpa using fun h₁ h₂ => absurd ⟨h₁, h₂⟩ hmoves
    · simpa using fun h₁ h₂ => absurd ⟨h₁, h₂⟩ hmoves

lemma GroupInv.issue (h : GroupInv group₀ t s) (ht : t ≤ now)
    (halone : GroupOp.Alone s (.issue plan planUpgradeGroup))
    (hissue : s.issue loc plan planUpgradeGroup now = .ok s') : GroupInv group₀ now s' := by
  obtain ⟨row, hid, hstatus, hstart, hend, hupgrade, hrows, hnext, hmove⟩ := issue_eq_ok hissue
  replace h := h.mono ht
  -- The user is in the first group when the new subscription moves them.
  have halone' : row.upgradeGroup ≠ "" → ∀ old ∈ s.subscriptions, ¬old.Holds :=
    fun hne => halone (hupgrade ▸ hne)
  have hfirst : row.upgradeGroup ≠ "" → s.group = group₀ := fun hne =>
    h.group.resolve_right fun ⟨old, hold, hholds, _⟩ => halone' hne old hold hholds
  have hmem : ∀ {old}, old ∈ s'.subscriptions ↔ old ∈ s.subscriptions ∨ old = row := by
    simp [hrows]
  constructor
  case keyed =>
    rw [hrows]
    exact h.keyed.append_singleton fun old hold => (hid ▸ h.fresh old hold).ne
  case fresh =>
    intro old hold
    rw [hnext]
    obtain hold | rfl := hmem.1 hold
    · exact (h.fresh old hold).trans (lt_add_one _)
    · exact hid ▸ lt_add_one _
  case time => exact h.time
  case remembers =>
    intro old hold hne
    obtain hold | rfl := hmem.1 hold
    · exact h.remembers old hold hne
    · refine ⟨by rw [hupgrade, trimSpace_trimSpace], ?_⟩
      obtain ⟨-, hgroup, hprev, -⟩ | ⟨hgroup, hprev, -⟩ := hmove
      · rw [hfirst hne] at hgroup hprev
        exact .inl ⟨hprev, hgroup.symm⟩
      · exact .inr ⟨hprev, (hgroup.resolve_left hne) ▸ hfirst hne⟩
  case active =>
    intro old hold hholds
    obtain hold | rfl := hmem.1 hold
    · exact h.active old hold hholds
    · exact ⟨hstart ▸ h.time, hstart.le, hstart ▸ hend⟩
  case expired =>
    intro old hold hexpired hne
    obtain hold | rfl := hmem.1 hold
    · exact h.expired old hold hexpired hne
    · rw [hstatus] at hexpired
      cases hexpired
  case single =>
    intro old hold old' hold' hholds hholds'
    obtain hold | rfl := hmem.1 hold <;> obtain hold' | rfl := hmem.1 hold'
    · exact h.single old hold old' hold' hholds hholds'
    · exact absurd hholds (halone' hholds'.2 old hold)
    · exact absurd hholds' (halone' hholds.2 old' hold')
    · rfl
  case later =>
    intro old hold hexpired hne new hnew hholds
    obtain hold | rfl := hmem.1 hold
    · obtain hnew | rfl := hmem.1 hnew
      · exact h.later old hold hexpired hne new hnew hholds
      · exact hstart ▸ h.expired old hold hexpired hne
    · rw [hstatus] at hexpired
      cases hexpired
  case group =>
    obtain ⟨hne, -, hprev, hgroup⟩ | ⟨-, -, hgroup⟩ := hmove
    · exact .inr ⟨row, hmem.2 (.inr rfl), ⟨hstatus, hne⟩, hgroup.symm, hprev.trans (hfirst hne)⟩
    · rw [hgroup]
      exact h.group.imp_right fun ⟨old, hold, hold'⟩ => ⟨old, hmem.2 (.inl hold), hold'⟩

/-! ## The end of a subscription -/

/-- A user is moved back to the group that the subscription has moved them from. -/
def GroupSubscription.Reverts (row : GroupSubscription) (group : String) : Prop :=
  row.upgradeGroup ≠ "" ∧ trimSpace row.prevUserGroup ≠ "" ∧ group = trimSpace row.prevUserGroup

lemma GroupSubscription.Reverts.eq {group : String} (h : sub.Reverts group)
    (htrim : trimSpace group₀ = group₀) (hsub : sub.upgradeGroup ≠ "" → sub.Remembers group₀) :
      group = group₀ := by
  obtain ⟨hne, hprev, rfl⟩ := h
  obtain ⟨hfirst, -⟩ | ⟨hempty, -⟩ := (hsub hne).prevUserGroup
  · rw [hfirst, htrim]
  · exact absurd (by rw [hempty]; decide) hprev

lemma GroupState.downgrade_eq (s : GroupState) (sub : GroupSubscription) (now : ℤ) : ∃ group,
    s.downgradeUserGroupForSubscription sub now = { s with group := group } ∧
      (group = s.group ∨ sub.Reverts group) := by
  rw [downgradeUserGroupForSubscription]
  split_ifs with hnone _ _ hkeep
  · exact ⟨_, rfl, .inl rfl⟩
  · exact ⟨_, rfl, .inl rfl⟩
  · exact ⟨_, rfl, .inl rfl⟩
  · exact ⟨_, rfl, .inl rfl⟩
  · exact ⟨_, rfl, .inr ⟨fun heq => hnone (by rw [heq]; decide), fun hprev =>
      hkeep (.inl hprev), rfl⟩⟩

lemma GroupState.downgrade_group_of_alone (hgroup₀ : group₀ ≠ "")
    (htrim : trimSpace group₀ = group₀) (hsub : sub.Remembers group₀)
    (hgroup : sub.upgradeGroup = s.group) (hprev : sub.prevUserGroup = group₀)
    (halone : ∀ row ∈ s.subscriptions, row.Holds → row.id = sub.id) (hne : sub.upgradeGroup ≠ "") :
    (s.downgradeUserGroupForSubscription sub now).group = group₀ := by
  have hmoved : s.group ≠ group₀ := by
    obtain ⟨-, hne⟩ | ⟨hempty, -⟩ := hsub.prevUserGroup
    · exact hgroup ▸ hne
    · exact absurd (hprev.symm.trans hempty) hgroup₀
  have hnone : ¬(s.subscriptions.any fun row => row.id ≠ sub.id && row.upgrades now) = true := by
    simp only [any_eq_true, not_exists, not_and, Bool.and_eq_true, decide_eq_true_eq]
    intro row hrow hdiff hupgrades
    exact hdiff (halone row hrow (upgrades_iff.1 hupgrades).1)
  rw [downgradeUserGroupForSubscription, hsub.upgradeGroup, hprev, htrim, if_neg hne,
    if_neg (not_not_intro hgroup.symm), if_neg hnone,
    if_neg (not_or.2 ⟨hgroup₀, hmoved.symm⟩)]

section

variable (h : GroupInv group₀ t s) (hgroup₀ : group₀ ≠ "") (htrim : trimSpace group₀ = group₀)
    (ht : t ≤ now)
include h hgroup₀ htrim ht

/-- A subscription ends before its time: its row is cancelled or gone. -/
lemma GroupInv.ended (hsub : sub ∈ s.subscriptions) (s₁ : GroupState) (hgroup : s₁.group = s.group)
    (hnext : s'.nextId = s.nextId)
    (hgroup' : s'.group = (s₁.downgradeUserGroupForSubscription sub now).group)
    (hkeyed : Table.Keyed (fun row : GroupSubscription => row.id) s'.subscriptions)
    (hothers₁ : ∀ row ∈ s₁.subscriptions, row.id ≠ sub.id → row ∈ s.subscriptions)
    (hothers : ∀ row ∈ s.subscriptions, row.id ≠ sub.id → row ∈ s'.subscriptions)
    (hrows : ∀ row ∈ s'.subscriptions, row ∈ s.subscriptions ∧ row.id ≠ sub.id ∨
      row.status = .cancelled ∧ row.id = sub.id ∧ row.upgradeGroup = sub.upgradeGroup ∧
        row.prevUserGroup = sub.prevUserGroup) : GroupInv group₀ now s' := by
  replace h := h.mono ht
  have hold : ∀ row ∈ s'.subscriptions, row.status ≠ .cancelled → row ∈ s.subscriptions :=
      fun row hrow hne =>
    ((hrows row hrow).resolve_right fun ⟨hc, _⟩ => hne hc).1
  have hheld : ∀ row ∈ s'.subscriptions, row.Holds → row ∈ s.subscriptions := fun row hrow hholds =>
    hold row hrow (by simp [hholds.1])
  have hexp : ∀ row ∈ s'.subscriptions, row.status = .expired → row ∈ s.subscriptions :=
      fun row hrow hexpired =>
    hold row hrow (by simp [hexpired])
  constructor
  case keyed => exact hkeyed
  case fresh =>
    intro row hrow
    rw [hnext]
    obtain ⟨hmem, -⟩ | ⟨-, hid, -⟩ := hrows row hrow
    · exact h.fresh row hmem
    · exact hid ▸ h.fresh sub hsub
  case time => exact h.time
  case remembers =>
    intro row hrow hne
    obtain ⟨hmem, -⟩ | ⟨-, -, hup, hprev⟩ := hrows row hrow
    · exact h.remembers row hmem hne
    · obtain ⟨htrimmed, hr⟩ := h.remembers sub hsub (hup ▸ hne)
      exact ⟨by rw [hup, htrimmed], by rwa [hup, hprev]⟩
  case active => exact fun row hrow hholds => h.active row (hheld row hrow hholds) hholds
  case expired => exact fun row hrow hexpired => h.expired row (hexp row hrow hexpired) hexpired
  case single =>
    exact fun row hrow row' hrow' hholds hholds' =>
      h.single row (hheld row hrow hholds) row' (hheld row' hrow' hholds') hholds hholds'
  case later =>
    exact fun old hmem hexpired hne row hrow hholds =>
      h.later old (hexp old hmem hexpired) hexpired hne row (hheld row hrow hholds) hholds
  case group =>
    have hkeep : s'.group = s.group ∨ s'.group = group₀ := by
      obtain ⟨group, heq, hg⟩ := s₁.downgrade_eq sub now
      rw [hgroup', heq, ← hgroup]
      exact hg.imp_right fun hr => hr.eq htrim (h.remembers sub hsub)
    obtain hfirst | ⟨row, hrow, hholds, hup, hprev⟩ := h.group
    · rw [hfirst, or_self] at hkeep
      exact .inl hkeep
    by_cases hid : row.id = sub.id
    · obtain rfl : row = sub := h.keyed.eq_of_mem hrow hsub hid
      refine .inl (hgroup'.trans <|
        downgrade_group_of_alone hgroup₀ htrim (h.remembers row hrow hholds.2)
        (hup.trans hgroup.symm) hprev (fun other hother hholds' => ?_) hholds.2)
      by_contra hdiff
      exact hdiff (by rw [h.single other (hothers₁ other hother hdiff) row hrow hholds' hholds])
    · obtain hsame | hsame := hkeep
      · exact .inr ⟨row, hothers row hrow hid, hholds, hup.trans hsame.symm, hprev⟩
      · exact .inl hsame

lemma GroupInv.invalidate
    {id : ℤ} (hs' : s.adminInvalidateUserSubscription id now = .ok s') :
      GroupInv group₀ now s' := by
  rw [adminInvalidateUserSubscription] at hs'
  split_ifs at hs'
  split at hs'
  · cases hs'
  rename_i sub hget
  obtain ⟨hsub, -⟩ := get?_eq_some hget
  have hrows : ∀ row ∈ put (fun row : GroupSubscription => row.id) (sub.cancel now) s.subscriptions,
      row ∈ s.subscriptions ∧ row.id ≠ sub.id ∨ row.status = .cancelled ∧ row.id = sub.id ∧
        row.upgradeGroup = sub.upgradeGroup ∧ row.prevUserGroup = sub.prevUserGroup := by
    intro row hrow
    obtain rfl | hmem := mem_put hrow
    · exact .inr ⟨rfl, rfl, rfl, rfl⟩
    · exact .inl hmem
  generalize hs₁ : ({ s with subscriptions := _ } : GroupState) = s₁ at hs'
  obtain ⟨hgroup, hnext, hput⟩ : s₁.group = s.group ∧ s₁.nextId = s.nextId ∧ s₁.subscriptions =
      put (fun row : GroupSubscription => row.id) (sub.cancel now) s.subscriptions := by
    subst hs₁
    exact ⟨rfl, rfl, rfl⟩
  obtain rfl := ok.inj hs'
  rw [← hput] at hrows
  obtain ⟨group, heq, -⟩ := s₁.downgrade_eq sub now
  rw [heq]
  refine h.ended hgroup₀ htrim ht hsub s₁ hgroup hnext (by rw [heq]) ?_ ?_ ?_ hrows
  · exact hput ▸ h.keyed.put _
  · exact fun row hrow hdiff => ((hrows row hrow).resolve_right fun hc => hdiff hc.2.1).1
  · exact hput ▸ fun row hrow hdiff => mem_put_of_ne hrow hdiff

lemma GroupInv.delete {id : ℤ} (hs' : s.adminDeleteUserSubscription id now = .ok s') :
    GroupInv group₀ now s' := by
  rw [adminDeleteUserSubscription] at hs'
  split_ifs at hs'
  split at hs'
  · cases hs'
  rename_i sub hget
  obtain rfl := ok.inj hs'
  obtain ⟨hsub, hid⟩ := get?_eq_some hget
  obtain ⟨group, heq, -⟩ := s.downgrade_eq sub now
  refine h.ended hgroup₀ htrim ht hsub s rfl (by rw [heq]) rfl (h.keyed.others _) ?_ ?_ ?_
  · exact fun row hrow _ => hrow
  · exact fun row hrow hdiff => mem_others.2 ⟨hrow, hid ▸ hdiff⟩
  · exact fun row hrow => .inl (hid ▸ mem_others.1 hrow)

end

/-! ## The sweep -/

/-- The rows after the sweep, with the user in a group that fits them. -/
lemma GroupInv.swept (h : GroupInv group₀ t s) (ht : t ≤ now)
    (hrows : s'.subscriptions = s.subscriptions.map (·.expire now)) (hnext : s'.nextId = s.nextId)
    (hgroup : s'.group = group₀ ∨ s'.group = s.group ∧
      ∃ row ∈ s.subscriptions, row.Holds ∧ row.due now = false) : GroupInv group₀ now s' := by
  replace h := h.mono ht
  have hmem : ∀ row ∈ s'.subscriptions, ∃ old ∈ s.subscriptions, old.expire now =
    row := by simp [hrows]
  -- An active row is one that the sweep has left alone.
  have hheld : ∀ row ∈ s'.subscriptions, row.Holds → row ∈ s.subscriptions := by
    intro row hrow hholds
    obtain ⟨old, hold, rfl⟩ := hmem row hrow
    rwa [hholds.of_expire.2.1]
  constructor
  case keyed =>
    rw [Table.Keyed, hrows]
    simpa [Function.comp_def, Table.Keyed] using h.keyed
  case fresh =>
    intro row hrow
    obtain ⟨old, hold, rfl⟩ := hmem row hrow
    simpa [hnext] using h.fresh old hold
  case time => exact h.time
  case remembers =>
    intro row hrow hne
    obtain ⟨old, hold, rfl⟩ := hmem row hrow
    exact (h.remembers old hold (by simpa using hne)).expire
  case active => exact fun row hrow hholds => h.active row (hheld row hrow hholds) hholds
  case expired =>
    intro row hrow hexpired hne
    obtain ⟨old, hold, rfl⟩ := hmem row hrow
    rw [expire_endTime]
    obtain hexpired | hdue := expired_of_expire hexpired
    · exact h.expired old hold hexpired (by simpa using hne)
    · exact (due_iff.1 hdue).2.2
  case single =>
    exact fun row hrow row' hrow' hholds hholds' =>
      h.single row (hheld row hrow hholds) row' (hheld row' hrow' hholds') hholds hholds'
  case later =>
    intro row hrow hexpired hne new hnew hholds
    obtain ⟨old, hold, rfl⟩ := hmem row hrow
    rw [expire_upgradeGroup] at hne
    rw [expire_endTime]
    obtain hexpired | hdue := expired_of_expire hexpired
    · exact h.later old hold hexpired hne new (hheld new hnew hholds) hholds
    · -- The one active row was due, so there is none left.
      obtain ⟨new', hnew', rfl⟩ := hmem new hnew
      obtain ⟨hholds', -, hdue'⟩ := hholds.of_expire
      have hsame := h.single old hold new' hnew' ⟨(due_iff.1 hdue).1, hne⟩ hholds'
      rw [hsame, hdue'] at hdue
      cases hdue
  case group =>
    obtain hfirst | ⟨hkeep, row, hrow, hholds, hdue⟩ := hgroup
    · exact .inl hfirst
    · rw [hkeep]
      refine h.group.imp_right fun ⟨old, hold, hholds', hold'⟩ => ⟨old, ?_, hholds', hold'⟩
      have hsame := h.single old hold row hrow hholds' hholds
      rw [hrows]
      refine mem_map.2 ⟨old, hold, ?_⟩
      rw [expire, hsame, hdue]
      rfl

/-- The last subscription that expired is the one that has moved the user. -/
lemma GroupInv.lastExpired (h : GroupInv group₀ t s) (hsub : sub ∈ s.subscriptions)
    (hholds : sub.Holds) (hdue : sub.due now = true)
    (hrows : s'.subscriptions = s.subscriptions.map (·.expire now)) :
    s'.lastExpired = some { sub with status := .expired } := by
  have hexpire : sub.expire now = { sub with status := .expired } := by rw [expire, if_pos hdue]
  have hmem : sub.expire now ∈
      s'.subscriptions.filter fun row => row.status = .expired && row.upgradeGroup ≠ "" := by
    refine List.mem_filter.2 ⟨hrows ▸ List.mem_map_of_mem hsub, ?_⟩
    simpa [hexpire] using hholds.2
  have hsome := List.isSome_maxOn?_of_mem (f := fun row : GroupSubscription =>
    toLex (row.endTime, row.id)) hmem
  obtain ⟨last, hlast⟩ := Option.isSome_iff_exists.1 hsome
  have hle := List.le_apply_get_maxOn?_of_mem (f := fun row : GroupSubscription =>
    toLex (row.endTime, row.id)) hmem
  simp only [hlast, Option.get_some] at hle
  have hlater : sub.endTime ≤ last.endTime := by
    rw [Prod.Lex.toLex_le_toLex] at hle
    rw [expire_endTime] at hle
    omega
  obtain ⟨hlastMem, hlastExpired⟩ := List.mem_filter.1 (List.maxOn?_mem hlast)
  rw [hrows] at hlastMem
  obtain ⟨old, hold, rfl⟩ := List.mem_map.1 hlastMem
  simp only [Bool.and_eq_true, decide_eq_true_eq, expire_upgradeGroup] at hlastExpired
  rw [GroupState.lastExpired, hlast, ← hexpire]
  congr 2
  obtain hexpired | hdue' := expired_of_expire hlastExpired.1
  · -- One that had expired before ended before this one started.
    have := h.later old hold hexpired hlastExpired.2 sub hsub hholds
    have := (h.active sub hsub hholds).2.2
    rw [expire_endTime] at hlater
    omega
  · exact h.single old hold sub hsub ⟨(due_iff.1 hdue').1, hlastExpired.2⟩ hholds

lemma GroupState.downgradeExpired_eq (s : GroupState) :
    ∃ group, s.downgradeExpired = { s with group := group } ∧
    (group = s.group ∨ ∃ last ∈ s.subscriptions, last.Reverts group) := by
  rw [downgradeExpired]
  split
  · exact ⟨_, rfl, .inl rfl⟩
  rename_i last hlast
  obtain ⟨hmem, hlast⟩ := List.mem_filter.1 (List.maxOn?_mem hlast)
  dsimp only
  split_ifs with hnone
  · exact ⟨_, rfl, .inl rfl⟩
  · exact ⟨_, rfl, .inl rfl⟩
  · exact ⟨_, rfl,
      .inr ⟨last, hmem, by simpa using (Bool.and_eq_true_iff.1 hlast).2, fun hprev => hnone (.inr
      hprev), rfl⟩⟩

/-- The sweep moves the user back when all that has moved them is due. -/
lemma GroupInv.downgradeExpired_group (h : GroupInv group₀ t s) (hgroup₀ : group₀ ≠ "")
    (htrim : trimSpace group₀ = group₀)
    (hrows : s'.subscriptions = s.subscriptions.map (·.expire now)) (hgroup : s'.group = s.group)
    (hdue : ∀ row ∈ s.subscriptions, row.Holds → row.due now = true) :
    s'.downgradeExpired.group = group₀ := by
  obtain hfirst | ⟨row, hrow, hholds, hup, hprev⟩ := h.group
  · obtain ⟨group, heq, hsame | ⟨last, hlast, hreverts⟩⟩ := s'.downgradeExpired_eq
    · rw [heq, hsame, hgroup, hfirst]
    · rw [hrows] at hlast
      obtain ⟨old, hold, rfl⟩ := mem_map.1 hlast
      rw [heq]
      exact hreverts.eq htrim fun hne => (h.remembers old hold (by simpa using hne)).expire
  · have hr := h.remembers row hrow hholds.2
    have hmoved : s'.group ≠ group₀ := by
      rw [hgroup, ← hup]
      obtain ⟨-, hne⟩ | ⟨hempty, -⟩ := hr.prevUserGroup
      · exact hne
      · exact absurd (hprev.symm.trans hempty) hgroup₀
    rw [downgradeExpired, h.lastExpired hrow hholds (hdue row hrow hholds) hrows]
    dsimp only
    rw [hr.upgradeGroup, hprev, htrim, if_neg (not_or.2 ⟨hholds.2, hgroup₀⟩),
      if_neg (not_or.2 ⟨not_not_intro (hgroup.trans hup.symm), hmoved⟩)]

def GroupState.Ended (s : GroupState) (now : ℤ) : Prop :=
  ∀ row ∈ s.subscriptions, row.upgradeGroup ≠ "" → row.status ≠ .active ∨ row.endTime ≤ now

instance (s : GroupState) (now : ℤ) : Decidable (s.Ended now) :=
  inferInstanceAs (Decidable (∀ row ∈ s.subscriptions, row.upgradeGroup ≠ "" →
    row.status ≠ .active ∨ row.endTime ≤ now))

section

variable (h : GroupInv group₀ t s) (hgroup₀ : group₀ ≠ "") (htrim : trimSpace group₀ = group₀)
    (ht : t ≤ now)
include h hgroup₀ htrim ht

lemma GroupInv.expireDue : GroupInv group₀ now (s.expireDueSubscriptions now) ∧
      (s.Ended now → (s.expireDueSubscriptions now).group = group₀) := by
  -- A row that has ended and is still active is due.
  have hend : ∀ row ∈ s.subscriptions, row.Holds → row.endTime ≤ now → row.due now = true := by
    intro row hrow hholds hle
    obtain ⟨hnonneg, -, hlt⟩ := h.active row hrow hholds
    exact due_iff.2 ⟨hholds.1, hnonneg.trans_lt hlt, hle⟩
  simp only [expireDueSubscriptions]
  split_ifs with hdue hactive
  · obtain ⟨row, hrow, hupgrades⟩ := any_eq_true.1 hactive
    obtain ⟨hholds, -, hlt⟩ := upgrades_iff.1 hupgrades
    obtain ⟨old, hold, rfl⟩ := mem_map.1 hrow
    obtain ⟨hholds', -, hdue'⟩ := hholds.of_expire
    rw [expire_endTime] at hlt
    refine ⟨h.swept ht rfl rfl (.inr ⟨rfl, old, hold, hholds', hdue'⟩), fun hended => ?_⟩
    exact absurd (hended old hold hholds'.2) (by simp [hholds'.1, hlt])
  · have hall : ∀ row ∈ s.subscriptions, row.Holds → row.due now = true := by
      intro row hrow hholds
      by_contra hnot
      refine hactive (any_eq_true.2 ⟨row, mem_map.2 ⟨row, hrow, ?_⟩, ?_⟩)
      · rw [expire, if_neg hnot]
      · exact upgrades_iff.2 ⟨hholds, (h.active row hrow hholds).2.1.trans ht,
          not_le.1 fun hle => hnot (hend row hrow hholds hle)⟩
    have hfirst := @GroupInv.downgradeExpired_group _ _ now s { s with subscriptions := _ } h
      hgroup₀ htrim rfl rfl hall
    obtain ⟨group, heq, -⟩ := GroupState.downgradeExpired_eq { s with subscriptions := _ }
    exact ⟨h.swept ht (by rw [heq]) (by rw [heq]) (.inl hfirst), fun _ => hfirst⟩
  · refine ⟨h.mono ht, fun hended => h.group.resolve_right ?_⟩
    rintro ⟨row, hrow, hholds, -⟩
    have hle := (hended row hrow hholds.2).resolve_left (not_not_intro hholds.1)
    exact hdue (any_eq_true.2 ⟨row, hrow, hend row hrow hholds hle⟩)

/-! ## Runs -/

lemma GroupInv.step (hstep : GroupStepAlone loc now s s') : GroupInv group₀ now s' := by
  obtain ⟨op, halone, rfl⟩ := hstep
  refine commit_invariant (h.mono ht) fun s' hs' => ?_
  cases op with
  | issue plan planUpgradeGroup => exact h.issue ht halone hs'
  | invalidate id => exact h.invalidate hgroup₀ htrim ht hs'
  | delete id => exact h.delete hgroup₀ htrim ht hs'
  | expire =>
    obtain rfl := ok.inj hs'
    exact (h.expireDue hgroup₀ htrim ht).1

end

lemma GroupInv.init (hkeyed : Table.Keyed (fun row : GroupSubscription => row.id) s.subscriptions)
    (hfresh : ∀ row ∈ s.subscriptions, row.id < s.nextId)
    (hnone : ∀ row ∈ s.subscriptions, row.upgradeGroup = "") (ht : 0 ≤ t) :
      GroupInv s.group t s where
  keyed := hkeyed
  fresh := hfresh
  time := ht
  remembers := fun row hrow hne => absurd (hnone row hrow) hne
  active := fun row hrow hholds => absurd (hnone row hrow) hholds.2
  expired := fun row hrow _ hne => absurd (hnone row hrow) hne
  single := fun row hrow _ _ hholds => absurd (hnone row hrow) hholds.2
  later := fun row hrow _ hne => absurd (hnone row hrow) hne
  group := .inl rfl

end

/-- If a subscription is issued only where no other one upgrades the group, the user has the first
    group again when all have ended. -/
theorem group_restored_of_alone {loc : Location} {t₀ t now : ℤ} {s₀ s : GroupState}
    (hkeyed : Table.Keyed (fun row : GroupSubscription => row.id) s₀.subscriptions)
    (hfresh : ∀ row ∈ s₀.subscriptions, row.id < s₀.nextId)
    (hnone : ∀ row ∈ s₀.subscriptions, row.upgradeGroup = "") (hgroup₀ : s₀.group ≠ "")
    (htrim : trimSpace s₀.group = s₀.group) (ht₀ : 0 ≤ t₀)
    (hrun : Timed.Run (GroupStepAlone loc) t₀ s₀ t s) (hnow : t ≤ now) (hended : s.Ended now) :
    (s.expireDueSubscriptions now).group = s₀.group := by
  have hinv : GroupInv s₀.group t s :=
    hrun.invariant _ (fun h ht hstep => h.step hgroup₀ htrim ht hstep)
      (.init hkeyed hfresh hnone ht₀)
  exact (hinv.expireDue hgroup₀ htrim hnow).2 hended

namespace Renewal

def plan : SubscriptionPlan := { id := 1, durationUnit := "custom", customSeconds := 3600 }

def loc : Location := .fixed 0

def user : GroupState := { userId := 1, group := "default" }

def act (now : ℤ) (op : GroupOp) (s : GroupState) : GroupState := commit s (op.perform loc now s)

def inTurn : GroupState :=
  act 5000 (.issue plan "vip") (act 4000 .expire (act 100 (.issue plan "vip") user))

/-- A subscription that is renewed half an hour before it ends. -/
def early : GroupState :=
  act 1900 (.issue plan "vip") (act 100 (.issue plan "vip") user)

end Renewal

/-- A renewal after the first subscription has ended. -/
theorem group_restored_in_turn : (Renewal.inTurn.expireDueSubscriptions 9000).group = "default" ∧
    Renewal.inTurn.group = "vip" := by
  have hrun : Timed.Run (GroupStepAlone Renewal.loc) 100 Renewal.user 5000 Renewal.inTurn :=
    .tail (.tail (.tail .refl le_rfl ⟨.issue Renewal.plan "vip", fun _ => by decide, rfl⟩)
      (by decide)
      ⟨.expire, trivial, rfl⟩) (by decide) ⟨.issue Renewal.plan "vip",
        fun _ => by decide +kernel, rfl⟩
  exact ⟨group_restored_of_alone (by decide) (by decide) (by decide) (by decide)
    (by decide +kernel) (by decide)
    hrun (by decide) (by decide +kernel), by decide +kernel⟩

/-- A renewal before the end keeps the user in the group for ever. -/
theorem group_kept_of_renewal :
    Timed.Run (GroupStep Renewal.loc) 100 Renewal.user 1900 Renewal.early ∧
    Renewal.early.Ended 9000 ∧ (Renewal.early.expireDueSubscriptions 9000).group = "vip" ∧
    ∀ now, ((Renewal.early.expireDueSubscriptions 9000).expireDueSubscriptions now).group =
      "vip" := by
  have hrun : Timed.Run (GroupStep Renewal.loc) 100 Renewal.user 1900 Renewal.early :=
    .tail (.tail .refl le_rfl ⟨.issue Renewal.plan "vip", rfl⟩) (by decide)
      ⟨.issue Renewal.plan "vip", rfl⟩
  have hkept : (Renewal.early.expireDueSubscriptions 9000).group = "vip" := by decide +kernel
  have hover : ∀ row ∈ (Renewal.early.expireDueSubscriptions 9000).subscriptions, row.status ≠
      .active := by
    decide +kernel
  refine ⟨hrun, by decide +kernel, hkept, fun now => ?_⟩
  rw [expireDueSubscriptions, if_neg]
  · exact hkept
  · rintro hdue
    obtain ⟨row, hrow, hdue⟩ := any_eq_true.1 hdue
    exact hover row hrow (due_iff.1 hdue).1

end Allrouter
