import FileShare.Proofs.Paging
import FileShare.Proofs.Runs.Identity
import FileShare.Proofs.Search.Lookups

/-! # Listings of the accounts

Accounts are listed page by page, newest first, while users may register, change their data and
leave. A page has at least one place, whatever the settings say, so a listing always gets on. That
identifiers are keys is no condition here: no two accounts share one, whatever is drawn.
-/
namespace FileShare

theorem Reachable.normalUserIds {allowed : Call → Store → Prop} {s : Store}
    (h : Reachable allowed s) : ∀ u ∈ s.users, Identifier.IsNormal u.id :=
  h.forall_users (fun c _ _ _ _ _ => c.drawn_isNormal) fun _ _ _ _ _ _ _ hu =>
    (Accounts.id_apply _ _).symm ▸ hu

namespace Accounts
variable {limits : Settings} {s : Store} {after : Json} {cursor : Option String}

theorem list_eq_ok {found : List PublicUser} :
    list limits after s = .ok found ↔
      ∃ cursor, Identifier.parseOptional (some "after") after = .ok cursor ∧
        (∀ id ∈ cursor, s.hasUserId id) ∧ Store.fitsInteger (pageSize limits) ∧
        (page limits cursor s.users).map User.toPublic = found := by
  simp only [list, Outcome.bind_eq_ok]
  refine exists_congr fun cursor => and_congr_right fun _ => ?_
  have hgone : (cursor.any fun id => !s.hasUserId id) = true ↔
      ¬ ∀ id ∈ cursor, s.hasUserId id := by cases cursor <;> simp
  by_cases hthere : ∀ id ∈ cursor, s.hasUserId id
  · rw [if_neg (by simpa [hgone] using hthere), and_iff_right hthere]
    cases hfits : Store.fitsInteger (pageSize limits) <;> simp [Outcome.pure_eq_ok]
  · rw [if_pos (hgone.mpr hthere)]
    simp only [Outcome.reject_ne_ok, false_iff]
    exact fun h => hthere h.1

theorem mem_of_page {users : List User} {u : User} (h : u ∈ page limits cursor users) :
    u ∈ users ∧ ∀ id ∈ cursor, u.id < id := by
  have hbelow := List.mem_filter.mp (mem_sortBy.mp (List.mem_of_mem_take h))
  exact ⟨hbelow.1, by simpa [Option.all_eq_true] using hbelow.2⟩

theorem length_page_le (limits : Settings) (cursor : Option String) (users : List User) :
    ((page limits cursor users).length : Int) ≤ max limits.resultsPerPage 1 := by
  have hlength : (page limits cursor users).length ≤ (pageSize limits).toNat :=
    List.length_take_le _ _
  unfold pageSize at hlength
  omega

theorem page_cut {users : List User} (h : (users.map User.id).Nodup) (limits : Settings)
    (cursor : Option String) :
    Paging.Page.Cut PublicUser.id (max limits.resultsPerPage 1) cursor
      ⟨users.map User.toPublic, (page limits cursor users).map User.toPublic⟩ := by
  have hsorted : DescendingBy User.id (sortBy (fun a b => decide (b.id ≤ a.id))
      (users.filter fun u => cursor.all fun id => decide (u.id < id))) :=
    .of_sort (h.sublist (List.filter_sublist.map User.id))
  constructor
  case sorted => exact List.pairwise_map.mpr (hsorted.sublist (List.take_sublist _ _))
  case sound =>
    intro a ha
    obtain ⟨u, hu, rfl⟩ := List.mem_map.mp ha
    obtain ⟨hmem, hlow⟩ := mem_of_page hu
    exact ⟨List.mem_map_of_mem hmem, hlow⟩
  case complete =>
    intro a ha hlow
    obtain ⟨u, hu, rfl⟩ := List.mem_map.mp ha
    have hlow : ∀ id ∈ cursor, u.id < id := hlow
    have hbelow : u ∈ users.filter fun u => cursor.all fun id => decide (u.id < id) :=
      List.mem_filter.mpr ⟨hu, by simpa [Option.all_eq_true] using hlow⟩
    have hpool := (sortBy_perm (fun a b : User => decide (b.id ≤ a.id)) _).mem_iff.mpr hbelow
    rcases hsorted.take_complete (pageSize limits).toNat hpool with hpage | ⟨hfull, hahead⟩
    · exact .inl (List.mem_map_of_mem hpage)
    · refine .inr ⟨?_, ?_⟩
      · rw [List.length_map]
        exact Int.toNat_le.mp hfull
      · intro b hb
        obtain ⟨v, hv, rfl⟩ := List.mem_map.mp hb
        exact hahead v hv

end Accounts

theorem Call.list_of_answered {c : Call} {s : Store} {after : Json} {found : List PublicUser}
    (asked : c.operation = .listUsers after) (answered : c.result s = .ok (.users found)) :
    Accounts.list c.limits after s = .ok found := by
  simp only [result, run, asked, Operation.run, Operation.reading] at answered
  cases hlist : Accounts.list c.limits after s with
  | error e =>
    rw [hlist] at answered
    cases answered
  | ok us =>
    rw [hlist] at answered
    cases answered
    rfl

/-- The runs in which the accounts are listed: a request for a page, and whatever other calls are
made before, in between and after. -/
inductive Listing (perPage : Int) : Store → List (Paging.Page PublicUser) → Prop
  | start {s : Store} (run : Reachable (fun _ _ => True) s) : Listing perPage s []
  | other {s : Store} {pages : List (Paging.Page PublicUser)} (c : Call)
      (run : Listing perPage s pages) : Listing perPage (c.after s) pages
  | page {c : Call} {s : Store} {pages : List (Paging.Page PublicUser)} {after : Json}
      {found : List PublicUser} (run : Listing perPage s pages)
      (cursor : Paging.next? PublicUser.id pages = some after)
      (under : c.limits.resultsPerPage = perPage) (asked : c.operation = .listUsers after)
      (answered : c.result s = .ok (.users found)) :
      Listing perPage (c.after s) (⟨s.users.map User.toPublic, found⟩ :: pages)

namespace Listing
open Paging
variable {perPage : Int} {s : Store} {pages : List (Page PublicUser)}

theorem reachable (h : Listing perPage s pages) : Reachable (fun _ _ => True) s := by
  induction h with
  | start run => exact run
  | other c _ ih => exact ih.call trivial
  | page _ _ _ _ _ ih => exact ih.call trivial

theorem follow (h : Listing perPage s pages) :
    Follow PublicUser.id (max perPage 1) pages ∧
      (∀ page ∈ pages, (page.rows.length : Int) ≤ max perPage 1) ∧
      ∀ u ∈ collected pages, Identifier.IsNormal u.id := by
  induction h with
  | start => exact ⟨.nil, by simp, by simp [collected]⟩
  | other _ _ ih => exact ih
  | @page c s pages after found run next under asked answered ih =>
    obtain ⟨hfollow, hlengths, hnormal⟩ := ih
    obtain ⟨below, hbelow, _, _, rfl⟩ :=
      Accounts.list_eq_ok.mp (Call.list_of_answered asked answered)
    cases (parse_next next hnormal).symm.trans hbelow
    have hcut := Accounts.page_cut run.reachable.distinct.ids c.limits (cursor PublicUser.id pages)
    have hlength := Accounts.length_page_le c.limits (cursor PublicUser.id pages) s.users
    rw [under] at hcut hlength
    refine ⟨.cons hfollow hcut, List.forall_mem_cons.mpr ⟨?_, hlengths⟩,
      List.forall_mem_append.mpr ⟨hnormal, fun u hu => ?_⟩⟩
    · rwa [List.length_map]
    · obtain ⟨v, hv, rfl⟩ := List.mem_map.mp (hcut.sound u hu).1
      exact run.reachable.normalUserIds v hv

end Listing

/-- Whatever happens between the requests of a listing, and whatever number of results the settings
ask for: no page holds more than that number, or more than one account if the number is smaller than
one, and the identifiers descend. Once a page is not full, every identifier of an account that was
there at every request was listed exactly once. A number that the store can take is no obstacle: the
next request is answered as long as the account of its cursor is still there. -/
theorem listing_loses_nothing {perPage : Int} {s : Store} {pages : List (Paging.Page PublicUser)}
    (h : Listing perPage s pages) :
    (∀ page ∈ pages, (page.rows.length : Int) ≤ max perPage 1) ∧
    (Paging.collected pages).Pairwise (fun a b => b.id < a.id) ∧
    ((∃ page ∈ pages, (page.rows.length : Int) < max perPage 1) →
      ∀ id, (∀ page ∈ pages, ∃ u ∈ page.pool, u.id = id) →
        ((Paging.collected pages).map PublicUser.id).count id = 1) ∧
    (Store.fitsInteger perPage → ∀ (c : Call) (after : Json),
      Paging.next? PublicUser.id pages = some after → c.limits.resultsPerPage = perPage →
        c.operation = .listUsers after →
          (∀ id ∈ Paging.cursor PublicUser.id pages, s.hasUserId id) →
            ∃ found, c.result s = .ok (.users found)) := by
  obtain ⟨hfollow, hlengths, hnormal⟩ := h.follow
  refine ⟨hlengths, hfollow.descending, fun hshort id hid => ?_, ?_⟩
  · obtain ⟨u, hu, rfl⟩ := hfollow.returned hshort hid
    exact List.count_eq_one_of_mem hfollow.descending.nodup_keys (List.mem_map_of_mem hu)
  · intro hfits c after hnext hunder hasked hthere
    have hsize : Store.fitsInteger (Accounts.pageSize c.limits) := by
      rw [Store.fitsInteger_iff] at hfits ⊢
      unfold Accounts.pageSize
      omega
    have hlist := Accounts.list_eq_ok.mpr
      ⟨_, Paging.parse_next hnext hnormal, hthere, hsize, rfl⟩
    simp only [Call.result, Call.run, hasked, Operation.run, Operation.reading, hlist]
    exact ⟨_, rfl⟩

namespace Sample

/-- Settings by which a page would have fewer than no places. -/
def narrowPages : Settings := { limits with resultsPerPage := -3 }

def browseAccounts (counter : Nat) (after : Json) : Call :=
  { call counter (.listUsers after) with limits := narrowPages }

/-- A third user registers after the first page. The new account lies above the cursor. -/
def crowd : Store := (enrol 3 "carl" "carl@mail.org").after { users := members }

def accountPages : List (Paging.Page PublicUser) :=
  [⟨crowd.users.map User.toPublic, []⟩,
    ⟨crowd.users.map User.toPublic, (members.take 1).map User.toPublic⟩,
    ⟨members.map User.toPublic, (members.drop 1).map User.toPublic⟩]

theorem listing_of_accounts : Listing (-3) crowd accountPages := by
  have hfirst : Listing (-3) { users := members } (accountPages.drop 2) :=
    .page (c := browseAccounts 3 .null) (.start (members_kept.mono fun _ _ _ => trivial)) rfl rfl
      rfl rfl
  have hsecond : Listing (-3) crowd (accountPages.drop 1) :=
    .page (c := browseAccounts 4 (.str "5f5e10000000000007000002"))
      (hfirst.other (enrol 3 "carl" "carl@mail.org")) rfl rfl rfl rfl
  exact .page (c := browseAccounts 5 (.str "5f5e10000000000007000001")) hsecond rfl rfl rfl rfl

end Sample

theorem listing_loses_nothing_sample :
    Listing (-3) Sample.crowd Sample.accountPages ∧
    (∀ page ∈ Sample.accountPages, (page.rows.length : Int) ≤ max (-3) 1) ∧
    (Paging.collected Sample.accountPages).Pairwise (fun a b => b.id < a.id) ∧
    ((Paging.collected Sample.accountPages).map PublicUser.id).count
      "5f5e10000000000007000001" = 1 := by
  obtain ⟨hlengths, hdescending, hcomplete, _⟩ := listing_loses_nothing Sample.listing_of_accounts
  refine ⟨Sample.listing_of_accounts, hlengths, hdescending, ?_⟩
  refine hcomplete ⟨_, List.mem_cons_self, by decide⟩ _ fun page hpage => ?_
  simp only [Sample.accountPages, List.mem_cons, List.not_mem_nil, or_false] at hpage
  rcases hpage with rfl | rfl | rfl <;> exact ⟨_, List.mem_cons_self, rfl⟩

end FileShare
