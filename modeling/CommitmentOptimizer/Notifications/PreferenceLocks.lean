import CommitmentOptimizer.Notifications.NotificationEmission

/-!
# Locked preferences

What a request for new preferences may do to the rows, and with it the policy of
the locks over every run: who locks, what a lock is good for, and what a disabled
preference keeps back.
-/

namespace CommitmentOptimizer.Notifications.PreferenceLocks

open Foundations
open Foundations.Schedules
open Foundations.SqlConstraints
open Foundations.FaultyWorkers
open Tenants.Users
open Sessions.Authentication (RequestContext)
open NotificationTables
open NotificationPreferences
open NotificationEmission

set_option autoImplicit false

section Keys

variable {left right : String} {first second : NotificationChannel}

/-- The separator is not needed to tell two keys apart. -/
theorem preference_key_inj :
    preferenceKey left first = preferenceKey right second ↔ left = right ∧ first = second := by
  constructor
  · intro same
    have lists : left.toList ++ '\x00' :: (channelText first).toList =
        right.toList ++ '\x00' :: (channelText second).toList := by
      simpa [preferenceKey] using congrArg String.toList same
    have channels : first = second := by
      have ends := congrArg List.getLast? lists
      cases first <;> cases second <;> first | rfl | simp [channelText] at ends
    subst channels
    exact ⟨String.toList_inj.mp (List.append_cancel_right lists), rfl⟩
  · rintro ⟨rfl, rfl⟩
    rfl

variable {normalize : List Char → List Char}

theorem parse_entries_distinct {entries : List Json} :
    ∀ {seen : List String} {inputs : List NotificationPreferenceInput},
      parseEntries normalize seen entries = some inputs →
      (inputs.map NotificationPreferenceInput.textKey).Nodup ∧
        ∀ input ∈ inputs, input.textKey ∉ seen := by
  induction entries with
  | nil =>
      intro seen inputs parsed
      obtain rfl := Option.some.inj parsed
      exact ⟨List.nodup_nil, nofun⟩
  | cons entry rest induction =>
      intro seen inputs parsed
      obtain ⟨input, _, parsed⟩ := Option.bind_eq_some_iff.mp parsed
      split_ifs at parsed with known
      obtain ⟨others, parsedRest, same⟩ := Option.bind_eq_some_iff.mp parsed
      obtain rfl := Option.some.inj same
      obtain ⟨distinct, apart⟩ := induction parsedRest
      have fresh : input.textKey ∉ seen := by simpa using known
      refine ⟨?_, ?_⟩
      · rw [List.map_cons, List.nodup_cons]
        refine ⟨fun taken => ?_, distinct⟩
        obtain ⟨other, member, sameKey⟩ := List.mem_map.mp taken
        exact apart other member (sameKey ▸ List.mem_cons_self)
      · intro other member
        rcases List.mem_cons.mp member with rfl | later
        · exact fresh
        · exact fun inSeen => apart other later (List.mem_cons_of_mem _ inSeen)

theorem parsed_distinct {body : Json} {inputs : List NotificationPreferenceInput}
    (parsed : parseNotificationPreferences normalize body = some inputs) :
    (inputs.map NotificationPreferenceInput.textKey).Nodup := by
  obtain ⟨input, _, parsed⟩ := Option.bind_eq_some_iff.mp parsed
  split at parsed
  · split_ifs at parsed
    exact (parse_entries_distinct parsed).1
  · cases parsed

end Keys

section Entries

/-- The row an entry is about. -/
def entryKey (tenantId userId : Uuid) (input : NotificationPreferenceInput) : PreferenceKey :=
  ⟨tenantId, userId, input.eventType, input.channel⟩

theorem current_by_key (tenantId userId : Uuid) (db : NotificationsDb)
    (input : NotificationPreferenceInput) :
    currentByKey (preferencesOf tenantId userId db) input.textKey =
      db.preferences.find (entryKey tenantId userId input) := by
  have keys : ∀ row ∈ preferencesOf tenantId userId db,
      (preferenceKey row.eventType row.channel = input.textKey ↔
        row.key = entryKey tenantId userId input) := by
    intro row member
    have owner : row.tenantId = tenantId ∧ row.userId = userId := by
      simpa using (List.mem_filter.mp member).2
    rw [NotificationPreferenceInput.textKey, preference_key_inj, NotificationPreference.key,
      entryKey, PreferenceKey.mk.injEq]
    exact ⟨fun same => ⟨owner.1, owner.2, same⟩, fun same => same.2.2⟩
  cases found : currentByKey (preferencesOf tenantId userId db) input.textKey with
  | some row =>
      have member : row ∈ preferencesOf tenantId userId db :=
        List.mem_reverse.mp (List.mem_of_find?_eq_some found)
      have same : preferenceKey row.eventType row.channel = input.textKey := by
        simpa using List.find?_some found
      exact (KeyedTable.find_eq_some.mpr
        ⟨List.mem_of_mem_filter member, (keys row member).mp same⟩).symm
  | none =>
      refine (KeyedTable.find_eq_none.mpr fun row member same => ?_).symm
      have owner : row ∈ preferencesOf tenantId userId db := by
        refine List.mem_filter.mpr ⟨member, ?_⟩
        rw [NotificationPreference.key, entryKey, PreferenceKey.mk.injEq] at same
        simpa using ⟨same.1, same.2.1⟩
      have absent := List.find?_eq_none.mp found row (List.mem_reverse.mpr owner)
      exact absent (by simpa using (keys row owner).mpr same)

variable {actorRole : UserRole} {previous : Option NotificationPreference}
  {input : NotificationPreferenceInput} {locked : Bool}

/-- What an entry without a conflict may ask for. -/
theorem locked_value_ok (accepted : lockedValue actorRole previous input = .ok locked) :
    locked = (input.lockedByAdmin.or (previous.map (·.lockedByAdmin))).getD false ∧
      (input.urgency = .high → input.enabled = false → locked = true) ∧
      (actorRole ≠ .tenantAdmin → input.lockedByAdmin = none) := by
  unfold lockedValue at accepted
  dsimp only at accepted
  split_ifs at accepted with conflict unlocked
  obtain rfl := Except.ok.inj accepted
  refine ⟨rfl, fun high disabled => ?_, fun notAdmin => ?_⟩
  · by_contra free
    exact unlocked ⟨high, disabled, Bool.eq_false_iff.mpr free⟩
  · by_contra stated
    have some : input.lockedByAdmin.isSome = true := Option.isSome_iff_ne_none.mpr stated
    exact conflict ⟨notAdmin, Or.inl some, Or.inl some⟩

/-- A row that an entry has written, over the row that was there. -/
structure Written (actorRole : UserRole) (previous : Option NotificationPreference)
    (input : NotificationPreferenceInput) (row : NotificationPreference) : Prop where
  urgency : row.urgency = input.urgency
  enabled : row.enabled = input.enabled
  locked : lockedValue actorRole previous input = .ok row.lockedByAdmin
  checked : ∀ check ∈ row.checks, check.2 = true
  permitted : ∀ old, previous = some old → old.lockedByAdmin = true → actorRole = .tenantAdmin

variable {circumstances : Circumstances} {now : Instant} {tenantId userId : Uuid}
  {current : List NotificationPreference} {number : Nat} {db next : NotificationsDb}

/-- Everything an upsert can do. -/
theorem upsert_cases {proposed : NotificationPreference}
    {mayUpdate : NotificationPreference → Bool}
    (accepted : upsertPreference now proposed mayUpdate db = .ok next) :
    next = db ∨ ∃ row, row.key = proposed.key ∧ row.urgency = proposed.urgency ∧
      row.enabled = proposed.enabled ∧ row.lockedByAdmin = proposed.lockedByAdmin ∧
      (∀ check ∈ row.checks, check.2 = true) ∧
      (∀ old, db.preferences.find proposed.key = some old → mayUpdate old = true) ∧
      ∃ table : PreferenceTable, next = { db with preferences := table } ∧
        table.find proposed.key = some row ∧
        ∀ other, other ≠ proposed.key → table.find other = db.preferences.find other := by
  unfold upsertPreference at accepted
  obtain ⟨_, checked, accepted⟩ := bind_ok.mp accepted
  cases found : db.preferences.find proposed.key with
  | none =>
      rw [found] at accepted
      obtain ⟨_, _, accepted⟩ := bind_ok.mp accepted
      obtain ⟨_, _, accepted⟩ := bind_ok.mp accepted
      obtain rfl := Except.ok.inj accepted
      refine Or.inr ⟨proposed, rfl, rfl, rfl, rfl, check_all_ok.mp checked, nofun, _, rfl, ?_, ?_⟩
      · rw [KeyedTable.find_insert, found, if_pos rfl, Option.none_or]
      · intro other apart
        rw [KeyedTable.find_insert, if_neg (Ne.symm apart), Option.or_none]
  | some old =>
      rw [found] at accepted
      have sameKey := KeyedTable.key_of_find found
      dsimp only at accepted
      split_ifs at accepted with mayWrite
      · obtain ⟨_, rowChecked, accepted⟩ := bind_ok.mp accepted
        obtain rfl := Except.ok.inj accepted
        refine Or.inr ⟨{ old with
            urgency := proposed.urgency
            enabled := proposed.enabled
            lockedByAdmin := proposed.lockedByAdmin
            updatedAt := now }, sameKey, rfl, rfl, rfl, check_all_ok.mp rowChecked, ?_, _, rfl,
          ?_, ?_⟩
        · intro other same
          exact Option.some.inj same ▸ mayWrite
        · rw [KeyedTable.find_put, found]
          exact if_pos sameKey
        · intro other apart
          rw [KeyedTable.find_put]
          exact if_neg fun same => apart (same.symm.trans sameKey)
      · exact Or.inl (Except.ok.inj accepted).symm

theorem run_ok {Value : Type} {statement : Statement} {outcome : Except DbError Value}
    {value : Value} (accepted : run circumstances statement outcome = .ok value) :
    outcome = .ok value := by
  unfold run at accepted
  split_ifs at accepted
  exact map_error_ok.mp accepted

/-- The turn of an entry leaves the other rows, and its own row is as before or written. -/
theorem write_preference_cases
    (agrees : currentByKey current input.textKey =
      db.preferences.find (entryKey tenantId userId input))
    (accepted : writePreference circumstances now tenantId userId actorRole current number input
      db = .ok next) :
    next = db ∨ ∃ row, row.key = entryKey tenantId userId input ∧
      Written actorRole (db.preferences.find (entryKey tenantId userId input)) input row ∧
      ∃ table : PreferenceTable, next = { db with preferences := table } ∧
        table.find (entryKey tenantId userId input) = some row ∧
        ∀ other, other ≠ entryKey tenantId userId input →
          table.find other = db.preferences.find other := by
  obtain ⟨locked, lock, accepted⟩ := bind_ok.mp accepted
  rw [agrees] at lock
  rcases upsert_cases (run_ok accepted) with same | ⟨row, key, urgency, enabled, rowLocked, checked,
    permitted, table, result, stored, others⟩
  · exact Or.inl same
  · refine Or.inr ⟨row, key, ⟨urgency, enabled, rowLocked ▸ lock, checked, ?_⟩, table, result,
      stored, others⟩
    intro old found oldLocked
    simpa [oldLocked, isTenantAdmin] using permitted old found

end Entries

section Requests

variable {actorRole : UserRole} {circumstances : Circumstances} {now : Instant}
  {tenantId userId : Uuid} {current : List NotificationPreference}

/-- A row is as before, or an entry of the request has written it. -/
theorem write_preferences_cases {inputs : List NotificationPreferenceInput} :
    ∀ {number : Nat} {db next : NotificationsDb},
      (inputs.map NotificationPreferenceInput.textKey).Nodup →
      (∀ input ∈ inputs, currentByKey current input.textKey =
        db.preferences.find (entryKey tenantId userId input)) →
      writePreferences circumstances now tenantId userId actorRole current number inputs db =
        .ok next →
      ∃ table : PreferenceTable, next = { db with preferences := table } ∧
        ∀ key, table.find key = db.preferences.find key ∨
          ∃ input ∈ inputs, key = entryKey tenantId userId input ∧
            ∃ row, table.find key = some row ∧
              Written actorRole (db.preferences.find key) input row := by
  induction inputs with
  | nil =>
      intro number db next _ _ accepted
      obtain rfl := Except.ok.inj accepted
      exact ⟨db.preferences, rfl, fun _ => Or.inl rfl⟩
  | cons input rest induction =>
      intro number db next distinct agrees accepted
      rw [List.map_cons, List.nodup_cons] at distinct
      obtain ⟨middle, first, onward⟩ := bind_ok.mp accepted
      have apart : ∀ later ∈ rest,
          entryKey tenantId userId later ≠ entryKey tenantId userId input := by
        intro later member same
        rw [entryKey, entryKey, PreferenceKey.mk.injEq] at same
        have sameText : later.textKey = input.textKey := preference_key_inj.mpr same.2.2
        exact distinct.1 (sameText ▸ List.mem_map_of_mem member)
      rcases write_preference_cases (agrees input List.mem_cons_self) first with
        rfl | ⟨row, _, written, table, rfl, stored, others⟩
      · obtain ⟨final, result, each⟩ := induction distinct.2
          (fun later member => agrees later (List.mem_cons_of_mem _ member)) onward
        refine ⟨final, result, fun key => (each key).imp_right ?_⟩
        rintro ⟨later, member, found⟩
        exact ⟨later, List.mem_cons_of_mem _ member, found⟩
      · obtain ⟨final, result, each⟩ := induction distinct.2
          (fun later member => (agrees later (List.mem_cons_of_mem _ member)).trans
            (others _ (apart later member)).symm) onward
        dsimp only at each
        refine ⟨final, result, fun key => ?_⟩
        by_cases own : key = entryKey tenantId userId input
        · subst own
          rcases each (entryKey tenantId userId input) with same | ⟨later, member, same, _⟩
          · exact Or.inr ⟨input, List.mem_cons_self, rfl, row, same.trans stored, written⟩
          · exact absurd same.symm (apart later member)
        · have here := each key
          rw [others key own] at here
          refine here.imp_right ?_
          rintro ⟨later, member, found⟩
          exact ⟨later, List.mem_cons_of_mem _ member, found⟩

/-- What one request leaves behind: it is refused and changes nothing, or each row is as
before or written by one of its entries. -/
theorem replace_preferences_cases {ordered : NotificationPreference → NotificationPreference → Bool}
    {inputs : List NotificationPreferenceInput} {db next : NotificationsDb}
    {outcome : Outcome (List NotificationPreference)}
    (distinct : (inputs.map NotificationPreferenceInput.textKey).Nodup)
    (replaced : replacePreferences ordered circumstances tenantId userId actorRole inputs db =
      (outcome, next)) :
    (∃ error, outcome = .refused error ∧ next = db) ∨
      (∀ error, outcome ≠ .refused error) ∧
      ∃ table : PreferenceTable, next = { db with preferences := table } ∧
        ∀ key, table.find key = db.preferences.find key ∨
          ∃ input ∈ inputs, key = entryKey tenantId userId input ∧
            ∃ row, table.find key = some row ∧
              Written actorRole (db.preferences.find key) input row := by
  unfold replacePreferences withTenantTransaction at replaced
  dsimp only at replaced
  split at replaced
  · obtain ⟨rfl, rfl⟩ := Prod.mk.inj replaced
    exact Or.inl ⟨_, rfl, rfl⟩
  next value pending body =>
    obtain ⟨_, _, body⟩ := bind_ok.mp body
    obtain ⟨tenants, _, body⟩ := bind_ok.mp body
    split_ifs at body
    obtain ⟨current, read, body⟩ := bind_ok.mp body
    obtain rfl := Except.ok.inj (run_ok read)
    obtain ⟨written, entries, body⟩ := bind_ok.mp body
    obtain ⟨_, _, body⟩ := bind_ok.mp body
    obtain ⟨_, rfl⟩ := Prod.mk.inj (Except.ok.inj body)
    have changes := write_preferences_cases distinct
      (fun input _ => current_by_key tenantId userId db input) entries
    split at replaced
    · obtain ⟨rfl, rfl⟩ := Prod.mk.inj replaced
      exact Or.inr ⟨(fun _ same => by cases same), changes⟩
    · obtain ⟨rfl, rfl⟩ := Prod.mk.inj replaced
      exact Or.inl ⟨_, rfl, rfl⟩
    · obtain ⟨rfl, rfl⟩ := Prod.mk.inj replaced
      exact Or.inr ⟨(fun _ same => by cases same), changes⟩

end Requests

section Policy

def isAdmin : RequestContext → Bool
  | .user _ _ role _ => isTenantAdmin role
  | .apiKey .. => false

/-- One of the requests is an administrator's and locks the row. -/
def LockedByAdmin (normalize : List Char → List Char) (requests : List (RequestContext × Json))
    (row : NotificationPreference) : Prop :=
  ∃ requestId body, (RequestContext.user row.tenantId row.userId .tenantAdmin requestId, body) ∈
      requests ∧
    ∃ inputs, parseNotificationPreferences normalize body = some inputs ∧
      ∃ input ∈ inputs, input.eventType = row.eventType ∧ input.channel = row.channel ∧
        input.lockedByAdmin = some true

/-- A disabled high-urgency preference is locked, and a lock is an administrator's, on a
high-urgency preference of the `in_app` channel. -/
structure LockPolicy (normalize : List Char → List Char) (requests : List (RequestContext × Json))
    (preferences : PreferenceTable) : Prop where
  muted : ∀ row ∈ preferences, row.urgency = .high → row.enabled = false →
    row.lockedByAdmin = true
  locks : ∀ row ∈ preferences, row.lockedByAdmin = true →
    row.urgency = .high ∧ row.channel = .inApp ∧ LockedByAdmin normalize requests row

variable {platform : Platform} {circumstances : Circumstances} {context : RequestContext}
  {body : Json} {db next : NotificationsDb} {outcome : Outcome (List NotificationPreference)}
  {requests : List (RequestContext × Json)}

/-- Everything a request can do. -/
theorem update_cases
    (updated : updateNotificationPreferences platform circumstances context body db =
      (outcome, next)) :
    (∃ error, outcome = .refused error ∧ next = db) ∨
      (∀ error, outcome ≠ .refused error) ∧
      ∃ tenantId userId role requestId inputs, context = .user tenantId userId role requestId ∧
        parseNotificationPreferences platform.normalize body = some inputs ∧
        ∃ table : PreferenceTable, next = { db with preferences := table } ∧
          ∀ key, table.find key = db.preferences.find key ∨
            ∃ input ∈ inputs, key = entryKey tenantId userId input ∧
              ∃ row, table.find key = some row ∧
                Written role (db.preferences.find key) input row := by
  unfold updateNotificationPreferences at updated
  cases context with
  | apiKey =>
      obtain ⟨rfl, rfl⟩ := Prod.mk.inj updated
      exact Or.inl ⟨_, rfl, rfl⟩
  | user tenantId userId role requestId =>
      cases parsed : parseNotificationPreferences platform.normalize body with
      | none =>
          rw [parsed] at updated
          obtain ⟨rfl, rfl⟩ := Prod.mk.inj updated
          exact Or.inl ⟨_, rfl, rfl⟩
      | some inputs =>
          rw [parsed] at updated
          refine (replace_preferences_cases (parsed_distinct parsed) updated).imp_right ?_
          rintro ⟨accepted, changes⟩
          exact ⟨accepted, tenantId, userId, role, requestId, inputs, rfl, rfl, changes⟩

theorem locked_by_admin_mono {more : List (RequestContext × Json)}
    {row : NotificationPreference} {normalize : List Char → List Char}
    (locked : LockedByAdmin normalize requests row) :
    LockedByAdmin normalize (requests ++ more) row := by
  obtain ⟨requestId, body, member, found⟩ := locked
  exact ⟨requestId, body, List.mem_append_left _ member, found⟩

/-- The policy over a written row. -/
theorem written_policy {role : UserRole} {previous : Option NotificationPreference}
    {input : NotificationPreferenceInput} {row : NotificationPreference}
    (written : Written role previous input row) :
    (row.urgency = .high → row.enabled = false → row.lockedByAdmin = true) ∧
      (row.lockedByAdmin = true → row.urgency = .high ∧ row.channel = .inApp) ∧
      (row.lockedByAdmin = true → role = .tenantAdmin ∧ (input.lockedByAdmin = some true ∨
        ∃ old, previous = some old ∧ old.lockedByAdmin = true)) := by
  obtain ⟨value, muted, unstated⟩ := locked_value_ok written.locked
  refine ⟨?_, fun locked => ?_, fun locked => ?_⟩
  · rw [written.urgency, written.enabled]
    exact muted
  · have check := written.checked ("notification_preferences_lock_check", _)
      (List.mem_cons_of_mem _ List.mem_cons_self)
    simpa [locked] using check
  · rw [locked] at value
    cases stated : input.lockedByAdmin with
    | some asked =>
        rw [stated, Option.some_or, Option.getD_some] at value
        refine ⟨?_, Or.inl (value ▸ rfl)⟩
        by_contra notAdmin
        rw [unstated notAdmin] at stated
        cases stated
    | none =>
        rw [stated, Option.none_or] at value
        cases found : previous with
        | none =>
            rw [found] at value
            cases value
        | some old =>
            rw [found] at value
            exact ⟨written.permitted old found value.symm, Or.inr ⟨old, rfl, value.symm⟩⟩

theorem update_keeps_policy
    (before : LockPolicy platform.normalize requests db.preferences)
    (updated : updateNotificationPreferences platform circumstances context body db =
      (outcome, next)) (accepted : ∀ error, outcome ≠ .refused error) :
    LockPolicy platform.normalize (requests ++ [(context, body)]) next.preferences := by
  rcases update_cases updated with ⟨error, refused, _⟩ | ⟨_, tenantId, userId, role, requestId,
    inputs, rfl, parsed, table, rfl, changes⟩
  · exact absurd refused (accepted error)
  have kept : ∀ row ∈ table, row ∈ db.preferences ∨ ∃ input ∈ inputs,
      row.key = entryKey tenantId userId input ∧
        Written role (db.preferences.find row.key) input row := by
    intro row member
    have found := KeyedTable.find_key member
    refine (changes row.key).imp (fun same => KeyedTable.mem_of_find (same.symm.trans found)) ?_
    rintro ⟨input, isInput, key, stored, present, written⟩
    obtain rfl := Option.some.inj (found.symm.trans present)
    exact ⟨input, isInput, key, written⟩
  constructor
  · intro row member
    rcases kept row member with old | ⟨_, _, _, written⟩
    · exact before.muted row old
    · exact (written_policy written).1
  · intro row member locked
    rcases kept row member with old | ⟨input, isInput, key, written⟩
    · obtain ⟨high, inApp, admin⟩ := before.locks row old locked
      exact ⟨high, inApp, locked_by_admin_mono admin⟩
    · obtain ⟨_, place, reason⟩ := written_policy written
      obtain ⟨high, inApp⟩ := place locked
      obtain ⟨rfl, stated | ⟨old, found, oldLocked⟩⟩ := reason locked
      · rw [NotificationPreference.key, entryKey, PreferenceKey.mk.injEq] at key
        obtain ⟨rfl, rfl, type, channel⟩ := key
        exact ⟨high, inApp, requestId, body, List.mem_append_right _ List.mem_cons_self, inputs,
          parsed, input, isInput, type.symm, channel.symm, stated⟩
      · obtain ⟨_, _, admin⟩ := before.locks old (KeyedTable.mem_of_find found) oldLocked
        have sameKey := KeyedTable.key_of_find found
        rw [NotificationPreference.key, NotificationPreference.key, PreferenceKey.mk.injEq]
          at sameKey
        obtain ⟨tenant, user, type, channel⟩ := sameKey
        refine ⟨high, inApp, locked_by_admin_mono ?_⟩
        unfold LockedByAdmin at admin ⊢
        rwa [tenant, user, type, channel] at admin

/-- Who is not an administrator leaves the locked rows as they are. -/
theorem update_keeps_locks (notAdmin : isAdmin context = false)
    (updated : updateNotificationPreferences platform circumstances context body db =
      (outcome, next)) {row : NotificationPreference} (locked : row.lockedByAdmin = true) :
    row ∈ next.preferences ↔ row ∈ db.preferences := by
  rcases update_cases updated with ⟨_, _, rfl⟩ | ⟨_, tenantId, userId, role, requestId, inputs,
    rfl, _, table, rfl, changes⟩
  · rfl
  have inTable : ∀ preferences : PreferenceTable,
      row ∈ preferences ↔ preferences.find row.key = some row :=
    fun _ => ⟨KeyedTable.find_key, KeyedTable.mem_of_find⟩
  rw [inTable, inTable]
  rcases changes row.key with same | ⟨input, _, _, stored, found, written⟩
  · dsimp only
    rw [same]
  · have role : role ≠ .tenantAdmin := by simpa [isAdmin, isTenantAdmin] using notAdmin
    constructor
    · intro present
      obtain rfl := Option.some.inj (present.symm.trans found)
      exact absurd ((written_policy written).2.2 locked).1 role
    · intro present
      exact absurd (written.permitted row present locked) role

end Policy

section Delivery

variable {platform : EmissionPlatform} {state next : EmissionState} {newId : Uuid}
  {phase : EmissionPhase} {onward : Option EmissionPhase}

/-- The recipient's own preference for an event, where it keeps the event back. -/
structure MutedBy (event : NotificationEvent) (recipientUserId : Uuid)
    (preferences : PreferenceTable) (row : NotificationPreference) : Prop where
  own : preferences.find ⟨event.tenantId, recipientUserId, event.eventType, .inApp⟩ = some row
  disabled : row.enabled = false
  locked : row.lockedByAdmin = true

theorem disabled_high_muted {event : NotificationEvent} {recipientUserId : Uuid}
    {ordered : NotificationPreference → NotificationPreference → Bool} {db : NotificationsDb}
    (high : event.urgency = .high)
    (disabled : notificationEnabled (listPreferences ordered event.tenantId recipientUserId db)
      event = false) :
    ∃ row, MutedBy event recipientUserId db.preferences row := by
  unfold notificationEnabled at disabled
  split at disabled
  · cases disabled
  next row found =>
    have member := (List.mem_insertionSort _).mp (List.mem_of_find?_eq_some found)
    obtain ⟨stored, owner⟩ := List.mem_filter.mp member
    obtain ⟨type, channel⟩ : row.eventType = event.eventType ∧ row.channel = .inApp := by
      simpa using List.find?_some found
    obtain ⟨tenant, user⟩ : row.tenantId = event.tenantId ∧ row.userId = recipientUserId := by
      simpa using owner
    split_ifs at disabled with enabled
    refine ⟨row, KeyedTable.find_eq_some.mpr ⟨stored, ?_⟩, by simpa using enabled, ?_⟩
    · rw [NotificationPreference.key, tenant, user, type, channel]
    · simpa using disabled

/-- An emission only reads preferences, and what it withholds is muted. -/
theorem operate_preferences
    (operated : emissionOperate platform newId state phase = some (next, onward)) :
    next.db.preferences = state.db.preferences ∧ next.updates = state.updates ∧
      ∀ entry ∈ next.withheld, entry ∈ state.withheld ∨ (entry.event.urgency = .high →
        ∃ row, MutedBy entry.event entry.recipientUserId entry.preferences row) := by
  obtain ⟨result, pair⟩ : ∃ result, (next, onward) = result := ⟨_, rfl⟩
  have done := operate_operated operated
  rw [pair] at done
  rw [show next = result.1 from congrArg Prod.fst pair]
  cases done with
  | resolved | allowed | missing => exact ⟨rfl, rfl, fun _ => Or.inl⟩
  | listed | existing | inserted =>
      refine ⟨(congrArg NotificationsDb.preferences (continue_with_db ..)).trans rfl,
        continue_with_updates .., fun entry member => Or.inl ?_⟩
      rw [continue_with_withheld] at member
      exact member
  | withheld emission recipient rest disabled =>
      refine ⟨congrArg NotificationsDb.preferences (continue_with_db ..),
        continue_with_updates .., fun entry member => ?_⟩
      rw [continue_with_withheld] at member
      rcases List.mem_append.mp member with old | new
      · exact Or.inl old
      · obtain rfl := List.mem_singleton.mp new
        exact Or.inr fun high => disabled_high_muted high disabled

/-- What holds of the locks and of the withheld events in every state. -/
structure LocksHold (platform : EmissionPlatform) (state : EmissionState) : Prop where
  policy : LockPolicy platform.normalize state.updates state.db.preferences
  withheld : ∀ entry ∈ state.withheld, entry.event.urgency = .high →
    ∃ row, MutedBy entry.event entry.recipientUserId entry.preferences row

theorem environment_holds {event : EmissionEvent} (before : LocksHold platform state) :
    LocksHold platform (emissionEnvironment platform state event) := by
  cases event with
  | update circumstances context body =>
      simp only [emissionEnvironment]
      split
      · next error db updated =>
        rcases update_cases updated with ⟨_, _, rfl⟩ | ⟨accepted, _⟩
        · exact before
        · exact absurd rfl (accepted error)
      · next outcome db accepted updated =>
        exact ⟨update_keeps_policy before.policy updated accepted, before.withheld⟩
  | read tenantId userId id =>
      have same : (markRead tenantId userId id state.db).preferences = state.db.preferences := by
        unfold markRead
        split
        · rfl
        · split_ifs <;> rfl
      refine ⟨?_, before.withheld⟩
      simp only [emissionEnvironment, same]
      exact before.policy
  | accounts tenant users => exact ⟨before.policy, before.withheld⟩
  | tick elapsed => exact ⟨before.policy, before.withheld⟩

theorem step_holds {run later : EmissionRun} {action : EmissionAction}
    (before : LocksHold platform run.shared)
    (taken : step (emissions platform) run action = some later) :
    LocksHold platform later.shared := by
  cases step_stepped taken with
  | called => exact before
  | operated worker newId phase effect after onward busy operation =>
      obtain ⟨preferences, updates, withheld⟩ := operate_preferences operation
      refine ⟨?_, fun entry member high => ?_⟩
      · dsimp only
        rw [preferences, updates]
        exact before.policy
      · rcases withheld entry member with old | new
        · exact before.withheld entry old high
        · exact new high
  | failed => exact before
  | stopped => exact before
  | happened event shared change =>
      obtain rfl := Option.some.inj change
      exact environment_holds before

/-- The policy of the locks, whatever requests and emissions run. -/
theorem lock_policy (platform : EmissionPlatform) (tenant : Uuid → Bool) (users : UserTable)
    (clock : Instant) (run : EmissionRun)
    (reached : Reachable (step (emissions platform)) (emissionStart tenant users clock) run) :
    LockPolicy platform.normalize run.shared.updates run.shared.db.preferences ∧
    (∀ circumstances context body, isAdmin context = false → ∀ row, row.lockedByAdmin = true →
      (row ∈ (updateNotificationPreferences platform.toPlatform circumstances context body
          run.shared.db).2.preferences ↔ row ∈ run.shared.db.preferences)) ∧
    (∀ circumstances context body error,
      (updateNotificationPreferences platform.toPlatform circumstances context body
          run.shared.db).1 = .refused error →
        (updateNotificationPreferences platform.toPlatform circumstances context body
          run.shared.db).2 = run.shared.db) ∧
    ∀ entry ∈ run.shared.withheld, entry.event.urgency = .high →
      ∃ row, MutedBy entry.event entry.recipientUserId entry.preferences row := by
  have initially : LocksHold platform (emissionStart tenant users clock).shared :=
    ⟨⟨fun row member => absurd member (KeyedTable.not_mem_empty row),
      fun row member => absurd member (KeyedTable.not_mem_empty row)⟩, nofun⟩
  have holds : LocksHold platform run.shared :=
    @reachable_preserves _ _ _ (fun run : EmissionRun => LocksHold platform run.shared)
      (fun _ _ _ before taken => step_holds before taken) _ _ initially reached
  refine ⟨holds.policy, ?_, ?_, holds.withheld⟩
  · intro circumstances context body notAdmin row locked
    exact update_keeps_locks notAdmin rfl locked
  · intro circumstances context body error refused
    obtain ⟨outcome, db, updated⟩ : ∃ outcome db, updateNotificationPreferences platform.toPlatform
      circumstances context body run.shared.db = (outcome, db) := ⟨_, _, rfl⟩
    rw [updated] at refused ⊢
    rcases update_cases updated with ⟨_, _, same⟩ | ⟨accepted, _⟩
    · exact same
    · exact absurd refused (accepted error)

def lockingBody : Json :=
  .object [("preferences", .array [.object [
    ("event_type", .string "import.completed"), ("channel", .string "in_app"),
    ("urgency", .string "high"), ("enabled", .bool false), ("locked_by_admin", .bool true)]])]

def quietly : Circumstances := ⟨fun _ => false, .applied, fun number => 100 + number, fun _ => 5⟩

/-- An administrator mutes an event, which is then withheld from the administrator. -/
def mutedSchedule : List EmissionAction :=
  [.external (.update quietly (.user 1 7 .tenantAdmin "request-1") lockingBody),
   .call 0 (.resolving (exampleEvent "import-1" .high)), .advance 0 0 .absent,
   .advance 0 0 .absent, .advance 0 0 .absent]

theorem lock_policy_muted :
    ∃ run, execute (step (emissions examplePlatform)) exampleStart mutedSchedule = some run ∧
      (∃ entry ∈ run.shared.withheld, entry.event.urgency = .high ∧
        ∃ row, MutedBy entry.event entry.recipientUserId entry.preferences row) ∧
      LockPolicy examplePlatform.normalize run.shared.updates run.shared.db.preferences := by
  have withheld : (execute (step (emissions examplePlatform)) exampleStart mutedSchedule).map
      (fun run => run.shared.withheld.map (·.event.urgency)) = some [.high] := by
    decide
  obtain ⟨run, arrived, high⟩ := Option.map_eq_some_iff.mp withheld
  have policy := lock_policy examplePlatform (fun id => id = 1) exampleUsers 0 run ⟨_, arrived⟩
  obtain ⟨entry, rest, same⟩ := List.exists_cons_of_ne_nil
    (show run.shared.withheld ≠ [] by intro empty; rw [empty] at high; cases high)
  rw [same, List.map_cons] at high
  have member : entry ∈ run.shared.withheld := same ▸ List.mem_cons_self
  have urgent := (List.cons.inj high).1
  exact ⟨run, arrived, ⟨entry, member, urgent, policy.2.2.2 entry member urgent⟩, policy.1⟩

end Delivery

end CommitmentOptimizer.Notifications.PreferenceLocks
