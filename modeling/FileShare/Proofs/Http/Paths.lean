import FileShare.Http.EscapedPath
import FileShare.Http.Route
import FileShare.Proofs.AccountFields
import FileShare.Proofs.Identifiers
import Mathlib.Data.List.TakeWhile

/-! # Paths of requests

The names and the identifiers in a path have no slash, no percent sign and no line break. So a path
that is made from them reads as it is written, it fits one shape of the table for its method before
any other, and the parts that are not fixed are what the path was made from.
-/
namespace FileShare

/-! ## Pieces -/

namespace Text
variable {sep : Char} {left right : List Char}

theorem pieces_of_notMem (h : sep ∉ left) : pieces sep left = [left] := by
  induction left with
  | nil => rfl
  | cons c left ih =>
    obtain ⟨hc, hleft⟩ := not_or.mp (mt List.mem_cons.mpr h)
    rw [pieces, ih hleft]
    simp [Ne.symm hc]

theorem pieces_append (h : sep ∉ left) :
    pieces sep (left ++ sep :: right) = left :: pieces sep right := by
  have hsep : pieces sep (sep :: right) = [] :: pieces sep right := by
    rw [pieces]
    cases hpieces : pieces sep right with
    | nil => exact absurd hpieces (pieces_ne_nil sep right)
    | cons piece more => simp
  induction left with
  | nil => exact hsep
  | cons c left ih =>
    obtain ⟨hc, hleft⟩ := not_or.mp (mt List.mem_cons.mpr h)
    rw [List.cons_append, pieces, ih hleft]
    simp [Ne.symm hc]

end Text

namespace Http

/-! ## Escapes -/

theorem pathUnits_plain {cs : List Char} (h : '%' ∉ cs) : pathUnits cs = cs.map unitOf := by
  fun_induction pathUnits cs with
  | case1 => simp at h
  | case2 => simp at h
  | case3 c rest _ ih => rw [List.map_cons, ih fun hrest => h (List.mem_cons_of_mem c hrest)]
  | case4 => rfl

theorem decodeFrom_plain (cs : List Char) : decodeFrom none (cs.map unitOf) = cs := by
  induction cs with
  | nil => rfl
  | cons c cs ih =>
    rw [List.map_cons, unitOf]
    split
    · rename_i hsmall
      simp [decodeFrom, leadOf, hsmall, ih]
    · simp [decodeFrom, ih]

theorem unescapePath_plain {path : String} (h : '%' ∉ path.toList) :
    unescapePath path = path.toList := by
  rw [unescapePath, pathUnits_plain h, decodeFrom_plain]

/-! ## Segments -/

/-- A text that stands between slashes and needs no escapes. -/
structure IsSegment (s : String) : Prop where
  nonempty : s.toList ≠ []
  slash : '/' ∉ s.toList
  percent : '%' ∉ s.toList
  lineBreak : '\n' ∉ s.toList

theorem isSegment_of_username {limits : Settings} {u : String} (h : Username.isShaped limits u) :
    IsSegment u := by
  obtain ⟨_, hne, hchars⟩ := Username.isShaped_iff.mp h
  have hother : ∀ c, ¬ (c.isAlphanum ∨ c = '_' ∨ c = '-') → c ∉ u.toList :=
    fun c hc hmem => hc (hchars c hmem)
  exact ⟨by simpa using hne, hother _ (by decide), hother _ (by decide), hother _ (by decide)⟩

theorem isSegment_of_id {id : String} (h : Identifier.isValid id) : IsSegment id := by
  obtain ⟨hlength, hdigits⟩ := Identifier.isValid_iff.mp h
  have hother : ∀ c, ¬ Text.isHexDigit c → c ∉ id.toList := fun c hc hmem => hc (hdigits c hmem)
  refine ⟨fun hnil => ?_, hother _ (by decide), hother _ (by decide), hother _ (by decide)⟩
  rw [← String.length_toList, hnil] at hlength
  cases hlength

def joined (ids : List String) : String := "/".intercalate ids

theorem toList_joined_cons (id : String) (ids : List String) : (joined (id :: ids)).toList =
    id.toList ++ ids.flatMap fun id => '/' :: id.toList := by
  induction ids generalizing id with
  | nil => simp [joined]
  | cons next ids ih =>
    rw [joined, String.intercalate_cons_cons, ← joined, String.toList_append, String.toList_append,
      ih]
    simp

theorem notMem_joined {c : Char} (hc : c ≠ '/') {ids : List String}
    (h : ∀ id ∈ ids, c ∉ id.toList) : c ∉ (joined ids).toList := by
  cases ids with
  | nil => simp [joined]
  | cons id ids =>
    obtain ⟨hid, hids⟩ := List.forall_mem_cons.mp h
    rw [toList_joined_cons, List.mem_append, List.mem_flatMap]
    rintro (hmem | ⟨k, hk, hmem⟩)
    · exact hid hmem
    · exact hids k hk ((List.mem_cons.mp hmem).resolve_left hc)

theorem pieces_flatMap {first : List Char} (hfirst : '/' ∉ first) {ids : List String}
    (h : ∀ id ∈ ids, '/' ∉ id.toList) :
    Text.pieces '/' (first ++ ids.flatMap fun id => '/' :: id.toList) =
      first :: ids.map String.toList := by
  induction ids generalizing first with
  | nil => simp [Text.pieces_of_notMem hfirst]
  | cons id ids ih =>
    obtain ⟨hid, hids⟩ := List.forall_mem_cons.mp h
    rw [List.flatMap_cons, List.cons_append, Text.pieces_append hfirst, ih hid hids, List.map_cons]

theorem splitIds_joined {ids : List String} (h : ∀ id ∈ ids, IsSegment id) :
    splitIds (joined ids) = ids := by
  cases ids with
  | nil => rfl
  | cons id ids =>
    obtain ⟨hid, hids⟩ := List.forall_mem_cons.mp h
    have hparts : Text.split '/' (joined (id :: ids)) = id :: ids := by
      rw [Text.split, toList_joined_cons, pieces_flatMap hid.slash fun k hk => (hids k hk).slash]
      simp [Function.comp_def]
    rw [splitIds, hparts, List.filter_eq_self]
    intro k hk
    exact decide_eq_true fun hempty => (h k hk).nonempty (by simp [hempty])

/-! ## Shapes -/

section Shapes
variable {parts : List Part} {cs : List Char}

theorem fit?_fixed (text : String) : fit? (.fixed text :: parts) (text.toList ++ cs) =
    fit? parts cs := by
  rw [fit?, Text.after?_append]
  rfl

theorem fit?_slash (parts : List Part) (cs : List Char) :
    fit? (.fixed "/" :: parts) ('/' :: cs) = fit? parts cs := fit?_fixed "/"

theorem fit?_segment {s : String} (hs : IsSegment s) (hcs : cs = [] ∨ ∃ rest, cs = '/' :: rest) :
    fit? (.segment :: parts) (s.toList ++ cs) = (fit? parts cs).map (s :: ·) := by
  have hpart : ∀ c ∈ s.toList, decide (c ≠ '/') = true := Email.forall_ne_of_notMem hs.slash
  have htake : (s.toList ++ cs).takeWhile (· ≠ '/') = s.toList := by
    rw [List.takeWhile_append_of_pos hpart]
    rcases hcs with rfl | ⟨rest, rfl⟩ <;> simp
  have hdrop : (s.toList ++ cs).dropWhile (· ≠ '/') = cs := by
    rw [List.dropWhile_append_of_pos hpart]
    rcases hcs with rfl | ⟨rest, rfl⟩ <;> simp
  have hsome : s.toList.isEmpty = false := by simpa using hs.nonempty
  simp only [fit?, htake, hdrop, hsome, Bool.false_eq_true, if_false, String.ofList_toList]

/-- A path of one fixed part fits that part alone, perhaps with a line break. -/
theorem isSome_fit?_fixed {path : String} :
    (fit? [.fixed path] cs).isSome ↔ cs = path.toList ∨ cs = path.toList ++ ['\n'] := by
  constructor
  · intro h
    obtain ⟨texts, hfit⟩ := Option.isSome_iff_exists.mp h
    obtain ⟨rest, hafter, hrest⟩ := Option.bind_eq_some_iff.mp hfit
    rw [Text.eq_append_of_after? hafter]
    have hend : atEnd rest = true := by
      by_contra hmore
      simp [fit?, hmore] at hrest
    simp only [atEnd, Bool.or_eq_true, decide_eq_true_eq] at hend
    rcases hend with rfl | rfl <;> simp
  · rintro (rfl | rfl)
    · rw [← List.append_nil path.toList, fit?_fixed]
      rfl
    · rw [fit?_fixed]
      rfl

theorem fit?_tail (h : '\n' ∉ cs) : fit? [.tail] cs = some [String.ofList cs] := by
  have hline : ∀ c ∈ cs, decide (c ≠ '\n') = true := Email.forall_ne_of_notMem h
  rw [fit?, List.dropWhile_eq_nil_iff.mpr hline, List.takeWhile_eq_self_iff.mpr hline]
  rfl

end Shapes

/-- The first shape that fits for the method decides, whatever shapes fit for other methods. -/
theorem routeIn_of_split {method : String} {path : List Char} {texts : List String} (r : Route)
    (before after : List Route) (hmethod : r.method = method)
    (hfit : fit? r.shape path = some texts)
    (hskip : ∀ b ∈ before, b.method = method → fit? b.shape path = none) :
    routeIn method path (before ++ r :: after) = .found r.endpoint texts := by
  induction before with
  | nil => simp [routeIn, hfit, hmethod]
  | cons b before ih =>
    obtain ⟨hb, hbefore⟩ := List.forall_mem_cons.mp hskip
    rw [List.cons_append, routeIn, ih hbefore]
    -- A shape that fits for another method is remembered, and the search goes on.
    split
    · rfl
    · rename_i found hfound
      rw [if_neg fun hsame => by simp [hb hsame] at hfound]

/-! ## Routes -/

/-- What a routing says about the table that it was made by. -/
def Routing.Tells (method : String) (path : List Char) (table : List Route) : Routing → Prop
  | .found endpoint texts =>
    ∃ route ∈ table, route.method = method ∧ route.endpoint = endpoint ∧
      fit? route.shape path = some texts
  | .otherMethod =>
    (∃ route ∈ table, (fit? route.shape path).isSome) ∧
      ∀ route ∈ table, route.method = method → fit? route.shape path = none
  | .unknown => ∀ route ∈ table, fit? route.shape path = none

theorem routeIn_tells (method : String) (path : List Char) (table : List Route) :
    (routeIn method path table).Tells method path table := by
  induction table with
  | nil => simp [routeIn, Routing.Tells]
  | cons route rest ih =>
    rw [routeIn]
    cases hfit : fit? route.shape path with
    | none =>
      dsimp only
      cases hrest : routeIn method path rest with
      | found | otherMethod | unknown =>
        rw [hrest] at ih
        simpa [Routing.Tells, hfit] using ih
    | some texts =>
      dsimp only
      split
      · rename_i hmethod
        exact ⟨route, List.mem_cons_self, hmethod, rfl, hfit⟩
      · rename_i hmethod
        cases hrest : routeIn method path rest with
        | found | otherMethod | unknown =>
          rw [hrest] at ih
          simp_all [Routing.Tells]

theorem route_tells (method : String) (path : List Char) :
    (route method path).Tells method path routes :=
  routeIn_tells method path routes

theorem method_of_routes : ∀ route ∈ routes, route.method ≠ "OPTIONS" := by decide

theorem shape_of_page : ∀ b ∈ pageRoutes, ∃ path ∈ pagePaths.map Prod.fst,
    b.shape = [.fixed path] := by
  decide

theorem fit?_pages {path : List Char} (h : path[1]? = some 'a') :
    ∀ b ∈ pageRoutes, fit? b.shape path = none := by
  intro b hb
  obtain ⟨page, hpage, hshape⟩ := shape_of_page b hb
  have hother : ∀ page ∈ pagePaths.map Prod.fst, page.toList[1]? ≠ some 'a' ∧
      (page.toList ++ ['\n'])[1]? ≠ some 'a' := by decide
  rw [hshape, ← Option.not_isSome_iff_eq_none, isSome_fit?_fixed]
  rintro (rfl | rfl)
  · exact (hother page hpage).1 h
  · exact (hother page hpage).2 h

/-- The first of the own routes that fits decides on a path that leads to no page. -/
theorem route_of_split {method : String} {path : List Char} {texts : List String} (r : Route)
    (before after : List Route) (hsplit : ownRoutes = before ++ r :: after)
    (hmethod : r.method = method) (hpath : path[1]? = some 'a')
    (hfit : fit? r.shape path = some texts)
    (hskip : ∀ b ∈ before, b.method = method → fit? b.shape path = none) :
    route method path = .found r.endpoint texts := by
  rw [route, routes, hsplit, ← List.append_assoc]
  refine routeIn_of_split r _ after hmethod hfit (List.forall_mem_append.mpr ⟨?_, hskip⟩)
  exact fun b hb _ => fit?_pages hpath b hb

theorem route_listUsers : route "GET" usersPath.toList = .found .listUsers [] := rfl

theorem route_createUser : route "POST" usersPath.toList = .found .createUser [] := rfl

section Users

theorem fit?_health_users (cs : List Char) :
    fit? [.fixed "/health"] (usersPath.toList ++ cs) = none := rfl

theorem fit?_accounts_user (cs : List Char) :
    fit? [.fixed usersPath] (usersPath.toList ++ '/' :: cs) = none := by
  rw [fit?_fixed]
  simp [fit?, atEnd]

theorem path_user (u : String) : (usersPath ++ "/" ++ u).toList[1]? = some 'a' := by
  simp [usersPath]

variable {u : String} (hu : IsSegment u)
include hu

theorem fit?_user : fit? [.fixed usersPath, .fixed "/", .segment] (usersPath ++ "/" ++ u).toList =
    some [u] := by
  rw [String.toList_append, String.toList_append, List.append_assoc, fit?_fixed, fit?_fixed,
    ← List.append_nil u.toList, fit?_segment hu (.inl rfl)]
  rfl

theorem route_getUser : route "GET" (usersPath ++ "/" ++ u).toList = .found .getUser [u] :=
  route_of_split ⟨"GET", _, _⟩ (ownRoutes.take 3) (ownRoutes.drop 4) rfl rfl (path_user u)
    (fit?_user hu) (by simp [ownRoutes, fit?_health_users, fit?_accounts_user])

theorem route_updateUser : route "PATCH" (usersPath ++ "/" ++ u).toList = .found .updateUser [u] :=
  route_of_split ⟨"PATCH", _, _⟩ (ownRoutes.take 4) (ownRoutes.drop 5) rfl rfl (path_user u)
    (fit?_user hu) (by simp [ownRoutes])

theorem route_deleteUser : route "DELETE" (usersPath ++ "/" ++ u).toList = .found .deleteUser [u] :=
  route_of_split ⟨"DELETE", _, _⟩ (ownRoutes.take 5) (ownRoutes.drop 6) rfl rfl (path_user u)
    (fit?_user hu) (by simp [ownRoutes])

end Users

section Nodes

theorem toList_below (u rest : String) : (nodesPath ++ u ++ "/" ++ rest).toList =
    nodesPath.toList ++ (u.toList ++ '/' :: rest.toList) := by
  simp

theorem path_nodes (cs : List Char) : (nodesPath.toList ++ cs)[1]? = some 'a' := rfl

theorem fit?_health_nodes (cs : List Char) :
    fit? [.fixed "/health"] (nodesPath.toList ++ cs) = none := rfl

theorem fit?_users_nodes (parts : List Part) (cs : List Char) :
    fit? (.fixed usersPath :: parts) (nodesPath.toList ++ cs) = none := rfl

theorem fit?_nodes {u : String} (hu : IsSegment u) (parts : List Part) {cs : List Char}
    (hcs : cs = [] ∨ ∃ rest, cs = '/' :: rest) :
    fit? (.fixed nodesPath :: .segment :: parts) (nodesPath.toList ++ (u.toList ++ cs)) =
      (fit? parts cs).map (u :: ·) := by
  rw [fit?_fixed, fit?_segment hu hcs]

section Ids
variable {ids : List String} (hids : ∀ id ∈ ids, Identifier.isValid id)
include hids

theorem fit?_ids : fit? [.fixed "/", .tail] ('/' :: (joined ids).toList) = some [joined ids] := by
  have hline : '\n' ∉ (joined ids).toList :=
    notMem_joined (by decide) fun id hid => (isSegment_of_id (hids id hid)).lineBreak
  rw [fit?_slash, fit?_tail hline, String.ofList_toList]

/-- Identifiers do not begin as the last part of a path for a search does. -/
theorem fit?_search_ids : fit? [.fixed "/search"] ('/' :: (joined ids).toList) = none := by
  cases ids with
  | nil => rfl
  | cons id ids =>
    have hid := hids id List.mem_cons_self
    rw [toList_joined_cons]
    cases hchars : id.toList with
    | nil => exact absurd hchars (isSegment_of_id hid).nonempty
    | cons c cs =>
      have hdigit : Text.isHexDigit c :=
        (Identifier.isValid_iff.mp hid).2 c (hchars ▸ List.mem_cons_self)
      have hother : 's' ≠ c := by
        rintro rfl
        exact absurd hdigit (by decide)
      have hafter : ∀ rest, Text.after? "/search".toList ('/' :: c :: rest) = none :=
        fun _ => (if_pos rfl).trans (if_neg hother)
      rw [fit?, List.cons_append, hafter]
      rfl

end Ids

variable {u : String} (hu : IsSegment u)
include hu

theorem route_searchNodes :
    route "GET" (nodesPath ++ u ++ "/search").toList = .found .searchNodes [u] := by
  rw [String.toList_append, String.toList_append, List.append_assoc]
  have hfit := fit?_nodes hu [.fixed "/search"] (.inr ⟨"search".toList, rfl⟩)
  exact route_of_split ⟨"GET", _, _⟩ (ownRoutes.take 7) (ownRoutes.drop 8) rfl rfl (path_nodes _)
    hfit (by simp [ownRoutes, fit?_health_nodes, fit?_users_nodes])

theorem route_createNode : route "POST" (nodesPath ++ u).toList = .found .createNode [u] := by
  rw [String.toList_append, ← List.append_nil u.toList]
  have hfit := fit?_nodes hu [] (.inl rfl)
  exact route_of_split ⟨"POST", _, _⟩ (ownRoutes.take 8) (ownRoutes.drop 9) rfl rfl (path_nodes _)
    hfit (by simp [ownRoutes, fit?_users_nodes])

theorem route_updateNode {id : String} (hid : IsSegment id) :
    route "PATCH" (nodesPath ++ u ++ "/" ++ id).toList = .found .updateNode [u, id] := by
  have hid : fit? [.fixed "/", .segment] ('/' :: id.toList) = some [id] := by
    rw [fit?_slash, ← List.append_nil id.toList, fit?_segment hid (.inl rfl)]
    rfl
  have hfit := fit?_nodes hu [.fixed "/", .segment] (.inr ⟨id.toList, rfl⟩)
  rw [toList_below]
  exact route_of_split ⟨"PATCH", _, _⟩ (ownRoutes.take 10) (ownRoutes.drop 11) rfl rfl
    (path_nodes _) (hfit.trans (congrArg _ hid)) (by simp [ownRoutes, fit?_users_nodes])

variable {ids : List String} (hids : ∀ id ∈ ids, Identifier.isValid id)
include hids

theorem route_getNodes : route "GET" (nodesPath ++ u ++ "/" ++ joined ids).toList =
    .found .getNodes [u, joined ids] := by
  have hsearch := fit?_nodes hu [.fixed "/search"] (.inr ⟨(joined ids).toList, rfl⟩)
  have hfit := fit?_nodes hu [.fixed "/", .tail] (.inr ⟨(joined ids).toList, rfl⟩)
  rw [fit?_search_ids hids] at hsearch
  rw [fit?_ids hids] at hfit
  rw [toList_below]
  exact route_of_split ⟨"GET", _, _⟩ (ownRoutes.take 9) (ownRoutes.drop 10) rfl rfl (path_nodes _)
    hfit (by simp [ownRoutes, fit?_health_nodes, fit?_users_nodes, hsearch])

theorem route_deleteNodes : route "DELETE" (nodesPath ++ u ++ "/" ++ joined ids).toList =
    .found .deleteNodes [u, joined ids] := by
  have hfit := fit?_nodes hu [.fixed "/", .tail] (.inr ⟨(joined ids).toList, rfl⟩)
  rw [fit?_ids hids] at hfit
  rw [toList_below]
  exact route_of_split ⟨"DELETE", _, _⟩ (ownRoutes.take 11) (ownRoutes.drop 12) rfl rfl
    (path_nodes _) hfit (by simp [ownRoutes, fit?_users_nodes])

end Nodes
end Http
end FileShare
