import Mathlib.Algebra.BigOperators.Ring.List
import Populace.Proofs.Census.Allocation

/-!
# Sharing out is fair

Two runs of sharing out are compared. What a country gets is up to its own users, those of
all countries together, and the people to share: `allocate_is_fair` says which way it goes
when one of these changes, and that a location is of no matter to any other country.
-/

namespace Populace.Census

/-! ## Shares -/

section Shares

variable {people total n : Nat}

theorem share_le_of_users {m : Nat} (h : m ≤ n) : share people total m ≤ share people total n :=
  Nat.div_le_div_right (Nat.mul_le_mul_right people h)

theorem share_le_of_people {more : Nat} (h : people ≤ more) :
    share people total n ≤ share more total n :=
  Nat.div_le_div_right (Nat.mul_le_mul_left n h)

theorem share_le_of_total {larger : Nat} (hpos : 0 < total) (h : total ≤ larger) :
    share people larger n ≤ share people total n :=
  Nat.div_le_div_left h hpos

/-- More users of one country are more in total, but its share is no smaller for it. -/
theorem share_le_share_add (hn : n ≤ total) (hpos : 0 < total) (more : Nat) :
    share people total n ≤ share people (total + more) (n + more) := by
  have hdue : share people total n * total ≤ n * people := Nat.div_mul_le_self _ _
  -- the old share is no more than a person for each of the new users would be
  have hnew : share people total n * more ≤ people * more := Nat.mul_le_mul_right more (share_le hn)
  rw [share.eq_1 people (total + more), Nat.le_div_iff_mul_le (by omega)]
  calc share people total n * (total + more)
      = share people total n * total + share people total n * more := Nat.mul_add _ _ _
    _ ≤ n * people + people * more := Nat.add_le_add hdue hnew
    _ = (n + more) * people := by rw [Nat.add_mul, Nat.mul_comm people more]

theorem share_scaled {factor : Nat} (hfactor : 0 < factor) :
    share people (factor * total) (factor * n) = share people total n := by
  rw [share, Nat.mul_assoc, Nat.mul_div_mul_left _ _ hfactor, share]

end Shares

/-! ## Totals -/

section Totals

variable {users : Table UInt64}

/-- Another count for one country makes that much of a difference in total. -/
theorem totalUsers_insert {country : String} {n : UInt64} (h : users.get? country = some n)
    (m : UInt64) :
    totalUsers (users.insert country m) + n.toNat = totalUsers users + m.toNat := by
  obtain ⟨front, back, hentries, hinsert⟩ := Table.insert_at_place h m
  rw [totalUsers_eq, totalUsers_eq, allUsers, allUsers, hentries, hinsert]
  simp only [List.map_append, List.map_cons, List.sum_append, List.sum_cons]
  omega

/-- Each country has so many times as many users. -/
def scaled (factor : Nat) (users : Table UInt64) : Table UInt64 :=
  users.map fun n => UInt64.ofNat (factor * n.toNat)

theorem toNat_scaled {factor : Nat} (hfits : ∀ n ∈ users.values, factor * n.toNat < 2 ^ 64)
    {n : UInt64} (hn : n ∈ users.values) :
    (UInt64.ofNat (factor * n.toNat)).toNat = factor * n.toNat :=
  UInt64.toNat_ofNat_of_lt' (hfits n hn)

theorem totalUsers_scaled {factor : Nat}
    (hfits : ∀ n ∈ users.values, factor * n.toNat < 2 ^ 64) :
    totalUsers (scaled factor users) = factor * totalUsers users := by
  have hvalues : (scaled factor users).values.map UInt64.toNat
      = users.values.map fun n => factor * n.toNat := by
    rw [scaled, Table.values, Table.map, List.map_map, List.map_map]
    rw [Table.values, List.map_map]
    refine List.map_congr_left fun e he => toNat_scaled hfits (List.mem_map.2 ⟨e, he, rfl⟩)
  have hsum : totalUsers (scaled factor users)
      = ((scaled factor users).values.map UInt64.toNat).sum := rfl
  rw [hsum, hvalues, List.sum_map_mul_left]
  rfl

end Totals

/-! ## Quotas -/

section Quotas

variable {α β : Type} {users quotas : Table UInt64} {locations : Table α} {people : UInt64}
  {country : String}

theorem exists_quotas (h : totalUsers users ≠ 0) (locations : Table α) (people : UInt64) :
    ∃ quotas, allocate users locations people = .ok quotas := by
  cases hquotas : allocate users locations people with
  | error c => exact absurd ((allocate_error_iff users locations people).1 ⟨c, hquotas⟩) h
  | ok quotas => exact ⟨quotas, rfl⟩

/-- A country's quota is its share, if it has a location. -/
theorem get?_quotas (h : allocate users locations people = .ok quotas) {quota : UInt64} :
    quotas.get? country = some quota
      ↔ ∃ n, users.get? country = some n ∧ locations.contains country
        ∧ quota.toNat = share people.toNat (totalUsers users) n.toNat := by
  have hquota : (∃ q, (country, q) ∈ quotas.entries ∧ q.toNat = quota.toNat)
      ↔ quotas.get? country = some quota := by
    simp only [Table.get?_eq_some_iff, UInt64.toNat_inj, exists_eq_right]
  rw [← hquota, mem_quotas_iff h]
  simp only [located, List.mem_filter, Table.get?_eq_some_iff, and_assoc]

theorem quota_of_located (h : allocate users locations people = .ok quotas) {n : UInt64}
    (hn : users.get? country = some n) (hlocated : locations.contains country) :
    ∃ quota, quotas.get? country = some quota
      ∧ quota.toNat = share people.toNat (totalUsers users) n.toNat := by
  obtain ⟨quota, hquota⟩ := Table.mem_names_iff.1 <| Table.contains_iff.1 <|
    (contains_quotas_iff h country).2
      ⟨Table.contains_iff.2 (Table.mem_names_iff.2 ⟨n, hn⟩), hlocated⟩
  obtain ⟨m, hm, -, hshare⟩ := (get?_quotas h).1 hquota
  rw [hn] at hm
  cases hm
  exact ⟨quota, hquota, hshare⟩

/-- A country gets a quota both times, the second time one that is no smaller. -/
def NoLess (country : String) (quotas quotas' : Table UInt64) : Prop :=
  ∃ q q', quotas.get? country = some q ∧ quotas'.get? country = some q' ∧ q ≤ q'

/-- Of two quotas the larger one is told by the shares. -/
theorem noLess_of_shares {users' quotas' : Table UInt64} {people' : UInt64} {n n' : UInt64}
    (h : allocate users locations people = .ok quotas)
    (h' : allocate users' locations people' = .ok quotas')
    (hlocated : locations.contains country) (hn : users.get? country = some n)
    (hn' : users'.get? country = some n')
    (hle : share people.toNat (totalUsers users) n.toNat
      ≤ share people'.toNat (totalUsers users') n'.toNat) :
    NoLess country quotas quotas' := by
  obtain ⟨q, hq, hshare⟩ := quota_of_located h hn hlocated
  obtain ⟨q', hq', hshare'⟩ := quota_of_located h' hn' hlocated
  refine ⟨q, q', hq, hq', UInt64.le_iff_toNat_le.2 ?_⟩
  rwa [hshare, hshare']

/-- So many times as many users everywhere make no difference. -/
theorem allocate_scaled (h : allocate users locations people = .ok quotas) {factor : Nat}
    (hfactor : 0 < factor) (hfits : ∀ n ∈ users.values, factor * n.toNat < 2 ^ 64) :
    allocate (scaled factor users) locations people = .ok quotas := by
  have htotal := totalUsers_scaled hfits
  have hpos := totalUsers_pos_of_allocate h
  have hne : totalUsers (scaled factor users) ≠ 0 := by
    rw [htotal]
    exact Nat.mul_ne_zero hfactor.ne' hpos.ne'
  obtain ⟨quotas', h'⟩ := exists_quotas hne locations people
  rw [h']
  -- each country has the same quota as before
  refine congrArg Except.ok (Table.eq_of_get? fun country => Option.ext fun quota => ?_)
  rw [get?_quotas h', get?_quotas h, htotal, scaled, Table.get?_map]
  simp only [Option.map_eq_some_iff, exists_exists_and_eq_and]
  refine exists_congr fun n => and_congr_right fun hn => ?_
  have hvalue : n ∈ users.values := List.mem_map.2 ⟨_, Table.get?_eq_some_iff.1 hn, rfl⟩
  rw [toNat_scaled hfits hvalue, share_scaled hfactor]

/-- The quota of a country has nothing to do with the locations of others. -/
theorem get?_quotas_congr {locations' : Table β} {quotas' : Table UInt64}
    (h : allocate users locations people = .ok quotas)
    (h' : allocate users locations' people = .ok quotas') (hlocated : locations.contains country)
    (hlocated' : locations'.contains country) :
    quotas'.get? country = quotas.get? country := by
  refine Option.ext fun quota => ?_
  rw [get?_quotas h', get?_quotas h]
  simp [hlocated, hlocated']

/-- A country that gets a quota has a location and users. -/
theorem located_of_quota (h : allocate users locations people = .ok quotas)
    (hquota : quotas.contains country) :
    locations.contains country ∧ ∃ n, users.get? country = some n := by
  obtain ⟨husers, hlocated⟩ := (contains_quotas_iff h country).1 hquota
  exact ⟨hlocated, Table.mem_names_iff.1 (Table.contains_iff.1 husers)⟩

theorem allocate_more_people (h : allocate users locations people = .ok quotas) {more : UInt64}
    (hmore : people ≤ more) :
    ∃ quotas', allocate users locations more = .ok quotas'
      ∧ ∀ country, quotas.contains country → NoLess country quotas quotas' := by
  obtain ⟨quotas', h'⟩ := exists_quotas (totalUsers_pos_of_allocate h).ne' locations more
  refine ⟨quotas', h', fun country hquota => ?_⟩
  obtain ⟨hlocated, n, hn⟩ := located_of_quota h hquota
  exact noLess_of_shares h h' hlocated hn hn (share_le_of_people (UInt64.le_iff_toNat_le.1 hmore))

/-- More users of one country are to its own advantage and to nobody else's. -/
theorem allocate_more_users (h : allocate users locations people = .ok quotas) {raised : String}
    {m n : UInt64} (hm : users.get? raised = some m) (hle : m ≤ n) :
    ∃ quotas', allocate (users.insert raised n) locations people = .ok quotas'
      ∧ ∀ country, quotas.contains country →
        if country = raised then NoLess country quotas quotas'
        else NoLess country quotas' quotas := by
  have hpos := totalUsers_pos_of_allocate h
  have hless : m.toNat ≤ n.toNat := UInt64.le_iff_toNat_le.1 hle
  obtain ⟨more, hmore⟩ := Nat.exists_eq_add_of_le hless
  have htotal : totalUsers (users.insert raised n) = totalUsers users + more := by
    have hinsert := totalUsers_insert hm n
    omega
  obtain ⟨quotas', h'⟩ := exists_quotas (show totalUsers (users.insert raised n) ≠ 0 by omega)
    locations people
  refine ⟨quotas', h', fun country hquota => ?_⟩
  obtain ⟨hlocated, k, hk⟩ := located_of_quota h hquota
  have hcount := Table.get?_insert users raised n country
  split
  · rename_i heq
    subst heq
    rw [if_pos rfl] at hcount
    refine noLess_of_shares h h' hlocated hm hcount ?_
    rw [htotal, hmore]
    exact share_le_share_add (le_totalUsers (Table.get?_eq_some_iff.1 hm)) hpos more
  · rename_i hother
    rw [if_neg hother, hk] at hcount
    refine noLess_of_shares h' h hlocated hcount hk ?_
    rw [htotal]
    exact share_le_of_total hpos (Nat.le_add_right _ _)

/-- **Sharing out is fair, and goes the right way.** With any users at all there are quotas.
Of two countries with a location the one with at least as many users gets at least as many
people, and no country gets fewer if there are more people to share. With more users one
country gets no fewer people, and no other country gets more. If all counts are so many
times as large, there are the same quotas. A country that has a location gets the same
whatever other locations are known, so what is due to a country without one goes to
nobody. -/
theorem allocate_is_fair (hne : allUsers users ≠ 0) (locations : Table α) (people : UInt64) :
    ∃ quotas, allocate users locations people = .ok quotas
      ∧ (∀ a b m n, locations.contains a → locations.contains b →
          users.get? a = some m → users.get? b = some n → m ≤ n →
          ∃ q r, quotas.get? a = some q ∧ quotas.get? b = some r ∧ q ≤ r)
      ∧ (∀ more, people ≤ more → ∃ quotas', allocate users locations more = .ok quotas'
          ∧ ∀ country, quotas.contains country → NoLess country quotas quotas')
      ∧ (∀ raised m n, users.get? raised = some m → m ≤ n →
          ∃ quotas', allocate (users.insert raised n) locations people = .ok quotas'
            ∧ ∀ country, quotas.contains country →
              if country = raised then NoLess country quotas quotas'
              else NoLess country quotas' quotas)
      ∧ (∀ factor : Nat, 0 < factor → (∀ n ∈ users.values, factor * n.toNat < 2 ^ 64) →
          allocate (users.map fun n => UInt64.ofNat (factor * n.toNat)) locations people
            = .ok quotas)
      ∧ ∀ {β : Type} (locations' : Table β),
          ∃ quotas', allocate users locations' people = .ok quotas'
            ∧ ∀ country, locations.contains country → locations'.contains country →
              quotas'.get? country = quotas.get? country := by
  rw [← totalUsers_eq] at hne
  obtain ⟨quotas, h⟩ := exists_quotas hne locations people
  refine ⟨quotas, h, ?_, fun more => allocate_more_people h,
    fun raised m n => allocate_more_users h, fun factor => allocate_scaled h, ?_⟩
  · intro a b m n ha hb hm hn hle
    obtain ⟨q, hq, hshare⟩ := quota_of_located h hm ha
    obtain ⟨r, hr, hshare'⟩ := quota_of_located h hn hb
    refine ⟨q, r, hq, hr, UInt64.le_iff_toNat_le.2 ?_⟩
    rw [hshare, hshare']
    exact share_le_of_users (UInt64.le_iff_toNat_le.1 hle)
  · intro β locations'
    obtain ⟨quotas', h'⟩ := exists_quotas hne locations' people
    exact ⟨quotas', h', fun country => get?_quotas_congr h h'⟩

end Quotas

/-- Three countries with users. -/
def threeCounts : Table UInt64 :=
  .ofList [("Andoria", 900), ("Betazed", 100), ("Cardassia", 500)]

/-- Two of them are known to be somewhere. -/
def twoPlaces : Table Unit := .ofList [("Andoria", ()), ("Betazed", ())]

/-- Ten times as many users of one of three countries. -/
theorem allocate_is_fair_three_countries :
    allUsers threeCounts ≠ 0
      ∧ ∃ quotas, allocate threeCounts twoPlaces 100 = .ok quotas
        ∧ quotas.get? "Andoria" = some 60 ∧ quotas.get? "Betazed" = some 6
        ∧ ∃ quotas', allocate (threeCounts.insert "Betazed" 1000) twoPlaces 100 = .ok quotas'
          ∧ NoLess "Betazed" quotas quotas' ∧ NoLess "Andoria" quotas' quotas := by
  have hne : allUsers threeCounts ≠ 0 := by decide +kernel
  obtain ⟨quotas, h, -, -, hraised, -⟩ := allocate_is_fair hne twoPlaces 100
  obtain ⟨quotas', h', hall⟩ := hraised "Betazed" 100 1000 (by decide +kernel) (by decide)
  -- 60 and 6 people are due to 900 and 100 users of 1500
  have hquota : ∀ country quota,
      (∃ n, threeCounts.get? country = some n ∧ twoPlaces.contains country
        ∧ quota.toNat = share 100 (totalUsers threeCounts) n.toNat) →
      quotas.get? country = some quota :=
    fun country quota => (get?_quotas h).2
  have handoria := hquota "Andoria" 60 ⟨900, by decide +kernel⟩
  have hbetazed := hquota "Betazed" 6 ⟨100, by decide +kernel⟩
  have hother := hall "Andoria" (by simp [Table.contains, handoria])
  have hown := hall "Betazed" (by simp [Table.contains, hbetazed])
  rw [if_neg (by decide)] at hother
  rw [if_pos rfl] at hown
  exact ⟨hne, quotas, h, handoria, hbetazed, quotas', h', hown, hother⟩

end Populace.Census
