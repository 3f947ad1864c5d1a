import NewApi.Machinery.Text

/-!
# Jsplugin/RoutePaths — plugin routes and the reserved namespaces

A plugin declares routes with static segments, `:parameters` and a final `*catch-all`
(`pkg/jsplugin/routing.go`).  `routePatternIntersectsNamespace` compares the pattern with a
namespace segment by segment, to keep plugins away from the paths of the host.

* `exists_matches_of_intersects`, `intersects_of_matches` — the comparison of segments is sound and
  complete for the paths that a pattern matches.
* `intersects_namespace_iff` — for every path it accepts, the source decides whether they meet.
-/

namespace Jsplugin

/-! ## Paths -/

/-- `strings.TrimPrefix(path, "/")`. -/
def trimSlash (path : String) : String :=
  if Text.startsWith path "/" then String.ofList (path.toList.drop 1) else path

/-- The segments of a path. -/
def segments (path : String) : List String := Text.split '/' (trimSlash path)

/-- `^[A-Za-z_][A-Za-z0-9_]*$`. -/
def isPathName : List Char → Bool
  | [] => false
  | c :: cs => (c.isAlpha || c = '_') && cs.all fun c => c.isAlphanum || c = '_'

/-- `^[A-Za-z0-9._~-]+$`. -/
def isStaticSegment (cs : List Char) : Bool :=
  cs ≠ [] && cs.all fun c => c.isAlphanum || c = '.' || c = '_' || c = '~' || c = '-'

/-- Why a route is refused. -/
inductive RoutePathError where
  | mustStartWithSlash
  | rootReserved
  | encoded
  | emptySegments
  | dotSegments
  | invalidParameter (segment : String)
  | repeatedParameter (name : String)
  | invalidCatchAll
  | invalidSegment (segment : String)
  | reserved («namespace» : String)
  deriving DecidableEq

/-- The loop of `NormalizeRoutePath`, with the names seen so far. -/
def checkSegments (seenNames : List String) : List String → Except RoutePathError Unit
  | [] => .ok ()
  | segment :: rest =>
    let name := segment.toList.drop 1
    if segment = "" ∧ rest = [] then checkSegments seenNames rest
    else if segment = "." ∨ segment = ".." then .error .dotSegments
    else if Text.startsWith segment ":" then
      if !isPathName name then .error (.invalidParameter segment)
      else if String.ofList name ∈ seenNames then
        .error (.repeatedParameter (String.ofList name))
      else checkSegments (String.ofList name :: seenNames) rest
    else if Text.startsWith segment "*" then
      if rest ≠ [] ∨ !isPathName name then .error .invalidCatchAll
      else if String.ofList name ∈ seenNames then
        .error (.repeatedParameter (String.ofList name))
      else checkSegments (String.ofList name :: seenNames) rest
    else if !isStaticSegment segment.toList then .error (.invalidSegment segment)
    else checkSegments seenNames rest

/-- The checks on the form of a route. -/
def normalizeRoutePath (routePath : String) : Except RoutePathError String :=
  if !Text.startsWith routePath "/" then .error .mustStartWithSlash
  else if routePath = "/" then .error .rootReserved
  else if routePath.toList.any (· ∈ ['?', '#', '%']) then .error .encoded
  else if Text.contains routePath "//" then .error .emptySegments
  else (checkSegments [] (segments routePath)).map fun _ => routePath

/-! ## Reserved namespaces -/

/-- The paths of the host. -/
def reservedRouteNamespaces : List String :=
  ["/api", "/assets", "/setup", "/v1/tasks", "/console", "/login", "/forbidden", "/sign-in",
    "/sign-up", "/forgot-password", "/oauth", "/otp", "/register", "/reset", "/privacy-policy",
    "/user-agreement", "/about", "/pricing", "/rankings", "/user", "/401", "/403", "/404", "/500",
    "/503", "/chat2link", "/system-settings", "/channels", "/chat", "/dashboard", "/errors",
    "/keys", "/models", "/playground", "/profile", "/redemption-codes", "/subscriptions",
    "/system-info", "/task-plugins", "/usage-logs", "/users", "/wallet"]

/-- The loop of `routePatternIntersectsNamespace`, over the segments of both. -/
def intersects : List String → List String → Bool
  | _, [] => true
  | [], _ :: _ => false
  | routeSegment :: route, namespaceSegment :: rest =>
    if Text.startsWith routeSegment "*" then true
    else if !Text.startsWith routeSegment ":" && routeSegment ≠ namespaceSegment then false
    else intersects route rest

/-- A route may serve a path of the namespace. -/
def routePatternIntersectsNamespace (routePath reserved : String) : Bool :=
  intersects (Text.split '/' (Text.trimChar '/' (trimSlash routePath))) (segments reserved)

/-- The first reserved namespace that a route meets. -/
def intersectingReservedNamespace (routePath : String) : Option String :=
  reservedRouteNamespaces.find? (routePatternIntersectsNamespace routePath)

/-- The checks of `validateRoute` on the path of a route. -/
def validateRoutePath (routePath : String) : Except RoutePathError String :=
  match normalizeRoutePath routePath with
  | .error e => .error e
  | .ok path =>
    match intersectingReservedNamespace path with
    | some reserved => .error (.reserved reserved)
    | none => .ok path

/-! ## Matching -/

/-- What a route serves: a parameter takes one segment that is not empty, a catch-all the rest. -/
inductive Matches : List String → List String → Prop
  | done : Matches [] []
  | catchAll {r : String} {route path : List String} :
    Text.startsWith r "*" = true → Matches (r :: route) path
  | segment {r s : String} {route path : List String} :
    (if Text.startsWith r ":" then s ≠ "" else s = r) → Matches route path →
      Matches (r :: route) (s :: path)

/-- Every pattern serves some path. -/
theorem exists_matches (route : List String) (hplain : ∀ r ∈ route, '/' ∉ r.toList) :
    ∃ path, Matches route path ∧ ∀ s ∈ path, '/' ∉ s.toList := by
  induction route with
  | nil => exact ⟨[], .done, by simp⟩
  | cons r route ih =>
    obtain ⟨hr, hroute⟩ := List.forall_mem_cons.1 hplain
    obtain ⟨path, hpath, hslash⟩ := ih hroute
    by_cases hparam : Text.startsWith r ":" = true
    · refine ⟨"x" :: path, .segment ?_ hpath, List.forall_mem_cons.2 ⟨by decide, hslash⟩⟩
      rw [if_pos hparam]
      decide
    · refine ⟨r :: path, .segment ?_ hpath, List.forall_mem_cons.2 ⟨hr, hslash⟩⟩
      rw [if_neg hparam]

section

variable {tail route ns : List String}

/-- A pattern that meets a namespace serves a path in it. -/
theorem exists_matches_of_intersects (hplain : ∀ r ∈ route ++ tail, '/' ∉ r.toList)
    (hne : ∀ n ∈ ns, n ≠ "") (h : intersects route ns = true) :
    ∃ rest, Matches (route ++ tail) (ns ++ rest) ∧ ∀ s ∈ rest, '/' ∉ s.toList := by
  induction ns generalizing route with
  | nil => exact exists_matches (route ++ tail) hplain
  | cons n ns ih =>
    cases route with
    | nil => cases h
    | cons r route =>
      obtain ⟨hn, hns⟩ := List.forall_mem_cons.1 hne
      rw [intersects] at h
      split_ifs at h with hall hdiffers
      · exact ⟨[], .catchAll hall, by simp⟩
      · obtain ⟨rest, hrest, hslash⟩ := ih (List.forall_mem_cons.1 hplain).2 hns h
        refine ⟨rest, .segment ?_ hrest, hslash⟩
        split_ifs with hparam
        · exact hn
        · have hsame : r = n := by simpa [hparam] using hdiffers
          exact hsame.symm

/-- A pattern that serves a path in a namespace meets it; `tail` is a slash at its end. -/
theorem intersects_of_matches {rest : List String} (htail : ∀ r ∈ tail, r = "")
    (hne : ∀ n ∈ ns, n ≠ "") (h : Matches (route ++ tail) (ns ++ rest)) :
    intersects route ns = true := by
  induction ns generalizing route with
  | nil => rw [intersects]
  | cons n ns ih =>
    obtain ⟨hn, hns⟩ := List.forall_mem_cons.1 hne
    cases route with
    | nil =>
      cases tail with
      | nil => cases h
      | cons r tail =>
        obtain rfl := htail r List.mem_cons_self
        cases h with
        | catchAll hall => exact absurd hall (by decide)
        | segment hs _ => exact absurd hs hn
    | cons r route =>
      rw [intersects]
      cases h with
      | catchAll hall => rw [if_pos hall]
      | segment hs hpath =>
        split_ifs with hall hdiffers
        · rfl
        · split_ifs at hs with hparam <;> simp [hparam, hs] at hdiffers
        · exact ih hns hpath

end

/-! ## Paths that are accepted -/

theorem trimSlash_eq {path : String} {cs : List Char} (h : path.toList = '/' :: cs) :
    trimSlash path = String.ofList cs := by
  have hstarts : Text.startsWith path "/" = true := by
    rw [Text.startsWith, h]
    rfl
  rw [trimSlash, if_pos hstarts, h, List.drop_one, List.tail_cons]

/-- The segments of a path that is accepted, without a slash at its end. -/
theorem segments_of_normalized {path path' : String} (h : normalizeRoutePath path = .ok path') :
    path' = path ∧ ∃ tail, (∀ r ∈ tail, r = "") ∧
      segments path = Text.split '/' (Text.trimChar '/' (trimSlash path)) ++ tail := by
  unfold normalizeRoutePath at h
  split_ifs at h with hstart hroot hencoded hempty
  obtain ⟨cs, hcs⟩ : ∃ cs, path.toList = '/' :: cs := by
    have hslash : ['/'] <+: path.toList := by simpa [Text.startsWith] using hstart
    obtain ⟨cs, hcs⟩ := hslash
    exact ⟨cs, hcs.symm⟩
  have hno : ∀ u v, path.toList ≠ u ++ '/' :: '/' :: v := by
    intro u v huv
    refine hempty (decide_eq_true ⟨u, v, ?_⟩)
    rw [huv]
    simp
  have hhead : cs.head? ≠ some '/' := by
    intro hhead
    obtain ⟨ds, rfl⟩ := List.head?_eq_some_iff.1 hhead
    exact hno [] ds hcs
  refine ⟨?_, ?_⟩
  · cases hcheck : checkSegments [] (segments path) with
    | error e =>
      rw [hcheck] at h
      cases h
    | ok u =>
      rw [hcheck] at h
      exact (Except.ok.inj h).symm
  rw [segments, trimSlash_eq hcs]
  by_cases hlast : cs.getLast? = some '/'
  · obtain ⟨ds, rfl⟩ := List.getLast?_eq_some_iff.1 hlast
    have hbody : String.ofList (ds ++ ['/']) = String.ofList ds ++ String.singleton '/' := by
      rw [← String.toList_inj]
      simp [String.toList_append]
    have htrim : Text.trimChar '/' (String.ofList ds) = String.ofList ds := by
      rw [Text.trimChar_eq_self_iff, String.toList_ofList]
      refine ⟨fun hslash => hhead ?_, fun hslash => ?_⟩
      · rw [List.head?_append, hslash]
        rfl
      · obtain ⟨es, rfl⟩ := List.getLast?_eq_some_iff.1 hslash
        exact hno ('/' :: es) [] (by simp [hcs])
    refine ⟨[""], by simp, ?_⟩
    rw [hbody, Text.trimChar_append, htrim]
    exact (congrArg _ (String.append_empty).symm).trans (Text.split_append (by decide))
  · refine ⟨[], by simp, ?_⟩
    rw [Text.trimChar_eq_self_iff.2, List.append_nil]
    rw [String.toList_ofList]
    exact ⟨hhead, hlast⟩

/-- The segments of the reserved namespaces are not empty. -/
theorem reserved_segments {ns : String} (h : ns ∈ reservedRouteNamespaces) :
    ∀ n ∈ segments ns, n ≠ "" := by
  have hall : reservedRouteNamespaces.all fun ns => (segments ns).all (· ≠ "") := by
    decide +kernel
  intro n hn
  exact of_decide_eq_true (List.all_eq_true.1 (List.all_eq_true.1 hall ns h) n hn)

theorem segments_join {path : List String} (hne : path ≠ []) (h : ∀ s ∈ path, '/' ∉ s.toList) :
    segments ("/" ++ Text.join '/' path) = path := by
  have hslash : ("/" ++ Text.join '/' path).toList = '/' :: (Text.join '/' path).toList := by
    simp [String.toList_append]
  rw [segments, trimSlash_eq hslash, String.ofList_toList, Text.split_join h hne]

/-- The route serves a path of the namespace, or one below it. -/
def Serves (routePath reserved path : String) : Prop :=
  segments reserved <+: segments path ∧ Matches (segments routePath) (segments path)

theorem intersects_iff_serves {routePath normalized ns : String}
    (h : normalizeRoutePath routePath = .ok normalized) (hns : ns ∈ reservedRouteNamespaces) :
    routePatternIntersectsNamespace normalized ns = true ↔
      ∃ path, Text.startsWith path "/" = true ∧ Serves normalized ns path := by
  obtain ⟨rfl, tail, htail, hsegments⟩ := segments_of_normalized h
  have hplain : ∀ r ∈ segments normalized, '/' ∉ r.toList :=
    fun _ hr => Text.not_mem_of_mem_split hr
  rw [hsegments] at hplain
  rw [routePatternIntersectsNamespace]
  constructor
  · intro hmeets
    obtain ⟨rest, hmatches, hslash⟩ :=
      exists_matches_of_intersects hplain (reserved_segments hns) hmeets
    rw [← hsegments] at hmatches
    have hsplit := Text.split_ne_nil '/' (trimSlash ns)
    have hpath : segments ("/" ++ Text.join '/' (segments ns ++ rest)) = segments ns ++ rest := by
      refine segments_join (by simp [segments, hsplit]) fun s hs => ?_
      rcases List.mem_append.1 hs with hs | hs
      · exact Text.not_mem_of_mem_split hs
      · exact hslash s hs
    refine ⟨"/" ++ Text.join '/' (segments ns ++ rest), ?_, ?_⟩
    · simp [Text.startsWith, String.toList_append]
    · rw [Serves, hpath]
      exact ⟨List.prefix_append _ _, hmatches⟩
  · rintro ⟨path, -, ⟨rest, hrest⟩, hmatches⟩
    rw [← hrest, hsegments] at hmatches
    exact intersects_of_matches htail (reserved_segments hns) hmatches

/-- **A route is found to intersect a reserved namespace** exactly when it serves a request there,
and one that is accepted serves none. -/
theorem intersects_namespace_iff {routePath normalized : String}
    (h : normalizeRoutePath routePath = .ok normalized) :
    (∀ ns ∈ reservedRouteNamespaces,
      (routePatternIntersectsNamespace normalized ns = true ↔
        ∃ path, Text.startsWith path "/" = true ∧ Serves normalized ns path)) ∧
      (validateRoutePath routePath = .ok normalized →
        ∀ ns ∈ reservedRouteNamespaces, ∀ path, Text.startsWith path "/" = true →
          ¬ Serves normalized ns path) := by
  refine ⟨fun ns => intersects_iff_serves h, fun hvalid ns hns path hslash hserves => ?_⟩
  rw [validateRoutePath, h] at hvalid
  cases hfound : intersectingReservedNamespace normalized with
  | some reserved =>
    simp only [hfound] at hvalid
    cases hvalid
  | none =>
    refine List.find?_eq_none.1 hfound ns hns ?_
    exact (intersects_iff_serves h hns).2 ⟨path, hslash, hserves⟩

/-- A route beside the tasks of the host, with a slash at its end. -/
theorem beside_tasks_accepted :
    validateRoutePath "/v1/videos/:id/" = .ok "/v1/videos/:id/" ∧
    ∀ path, Text.startsWith path "/" = true → ¬ Serves "/v1/videos/:id/" "/v1/tasks" path :=
  have hvalid : validateRoutePath "/v1/videos/:id/" = .ok "/v1/videos/:id/" := by decide +kernel
  ⟨hvalid, (intersects_namespace_iff (by decide +kernel)).2 hvalid _ (by decide)⟩

end Jsplugin
