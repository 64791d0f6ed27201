/-
  CallGateway.Proofs.Routes
  ─────────────────────────
  **THE TABLE OF ROUTES, SEEN FROM ALL SIDES.**

  A service enters its routes one after the other (`register_eq`).  What one
  of them does to a table (`resolve?_register`) says what any number of them
  do (`resolve?_foldl_register`): the last route under a name is the one that
  is found.  The list of names, the question whether a name is there, and the
  route under it then agree whatever was registered (`methods_contains_resolve_agree`).

  The services are arbitrary.  They may have the same name, list a method
  twice, or have slashes in their names, so a full name need not tell which
  service and method it was made of.  It does where these are segments
  (`fullName_inj`).
-/
import CallGateway.Proofs.Dict
import CallGateway.Proofs.MethodName.Grammar
import CallGateway.Proofs.Text.Order
import CallGateway.Routes

namespace CallGateway

/-! ## §1. What is registered. -/

/-- What a service has to register, one after the other: a route for each of
its methods, under the full name. -/
def Service.registrations (s : Service) : List (String × Route) :=
  s.methods.map fun m => (Routes.fullName s.name m.1, ⟨m.2, s⟩)

theorem Service.mem_registrations_iff {s : Service} {name : String} {route : Route} :
    (name, route) ∈ s.registrations
      ↔ route.service = s ∧ ∃ m ∈ s.methods, name = Routes.fullName s.name m.1 ∧ route.kind = m.2 := by
  unfold registrations
  rw [List.mem_map]
  constructor
  · rintro ⟨m, hm, heq⟩
    cases heq
    exact ⟨rfl, m, hm, rfl, rfl⟩
  · rintro ⟨rfl, m, hm, rfl, hkind⟩
    exact ⟨m, hm, by rw [← hkind]⟩

namespace Routes

/-- The table after these services were registered, one after the other. -/
def ofServices (services : List Service) : Routes := services.foldl register Dict.empty

/-- All that services register, in order. -/
def registrations (services : List Service) : List (String × Route) := services.flatMap Service.registrations

theorem registrations_cons (s : Service) (services : List Service) :
    registrations (s :: services) = s.registrations ++ registrations services :=
  List.flatMap_cons

/-- A route is the last one that is registered under a name. -/
def IsLast (services : List Service) (name : String) (route : Route) : Prop :=
  ∃ earlier later, registrations services = earlier ++ (name, route) :: later ∧ ∀ e ∈ later, e.1 ≠ name

theorem mem_registrations_iff {services : List Service} {name : String} {route : Route} :
    (name, route) ∈ registrations services
      ↔ route.service ∈ services
        ∧ ∃ m ∈ route.service.methods, name = fullName route.service.name m.1 ∧ route.kind = m.2 := by
  unfold registrations
  rw [List.mem_flatMap]
  simp only [Service.mem_registrations_iff]
  constructor
  · rintro ⟨s, hs, rfl, hm⟩
    exact ⟨hs, hm⟩
  · rintro ⟨hs, hm⟩
    exact ⟨route.service, hs, rfl, hm⟩

theorem IsLast.mem {services : List Service} {name : String} {route : Route} (h : IsLast services name route) :
    (name, route) ∈ registrations services := by
  obtain ⟨earlier, later, hsplit, -⟩ := h
  rw [hsplit]
  exact List.mem_append_right _ List.mem_cons_self

/-! ## §2. The table. -/

/-- A service enters its routes one after the other. -/
theorem register_eq (r : Routes) (s : Service) :
    r.register s = s.registrations.foldl (fun r e => Dict.insert r e.1 e.2) r := by
  rw [Service.registrations, List.foldl_map]
  rfl

/-- **One registration**: the last of its routes is found, or else what was
there before. -/
theorem resolve?_register (r : Routes) (s : Service) (name : String) :
    (r.register s).resolve? name = (s.registrations.reverse.lookup name).or (r.resolve? name) := by
  rw [register_eq]
  exact Dict.get?_foldl_insert s.registrations r name

/-- **Any number of registrations**, one after the other: the last route of
them all is found, or else what was there before. -/
theorem resolve?_foldl_register (services : List Service) (r : Routes) (name : String) :
    (services.foldl register r).resolve? name
      = ((registrations services).reverse.lookup name).or (r.resolve? name) := by
  induction services generalizing r with
  | nil => rfl
  | cons s services ih =>
    rw [List.foldl_cons, ih, resolve?_register, registrations_cons, List.reverse_append, List.lookup_append,
      Option.or_assoc]

theorem resolve?_ofServices (services : List Service) (name : String) :
    (ofServices services).resolve? name = (registrations services).reverse.lookup name := by
  have hempty : resolve? Dict.empty name = none := rfl
  rw [ofServices, resolve?_foldl_register, hempty, Option.or_none]

/-- **What is found is what was registered last.** -/
theorem resolve?_ofServices_eq_some_iff {services : List Service} {name : String} {route : Route} :
    (ofServices services).resolve? name = some route ↔ IsLast services name route := by
  rw [resolve?_ofServices]
  exact Entries.lookup_reverse_eq_some_iff

/-- A method leads to one of the services. -/
theorem service_mem_of_resolve? {services : List Service} {name : String} {route : Route}
    (h : (ofServices services).resolve? name = some route) : route.service ∈ services :=
  (mem_registrations_iff.1 (resolve?_ofServices_eq_some_iff.1 h).mem).1

/-- Something is found just where something was registered. -/
theorem isSome_resolve?_ofServices_iff {services : List Service} {name : String} :
    ((ofServices services).resolve? name).isSome = true
      ↔ ∃ s ∈ services, ∃ m ∈ s.methods, name = fullName s.name m.1 := by
  constructor
  · intro h
    obtain ⟨route, hroute⟩ := Option.isSome_iff_exists.1 h
    obtain ⟨hservice, m, hm, hname, -⟩ :=
      mem_registrations_iff.1 (resolve?_ofServices_eq_some_iff.1 hroute).mem
    exact ⟨route.service, hservice, m, hm, hname⟩
  · rintro ⟨s, hs, m, hm, hname⟩
    have hmem : (name, (⟨m.2, s⟩ : Route)) ∈ registrations services :=
      mem_registrations_iff.2 ⟨hs, m, hm, hname, rfl⟩
    rw [resolve?_ofServices, List.lookup_isSome_iff]
    exact ⟨_, List.mem_reverse.2 hmem, BEq.rfl⟩

/-- The names that are listed are those under which a route is found. -/
theorem mem_methods_iff {r : Routes} {name : String} : name ∈ r.methods ↔ (r.resolve? name).isSome = true :=
  Dict.mem_keys_iff

/-! ## §3. Names of two segments. -/

/-- A full name that is made of segments is made of nothing else. -/
theorem fullName_inj {s m s' m' : String} (hs : IsSegment s) (hm : IsSegment m)
    (h : fullName s' m' = fullName s m) : s' = s ∧ m' = m := by
  let n : MethodName := ⟨s, m, hs, hm⟩
  have hfull : "/" ++ s' ++ "/" ++ m' = n.full := h
  exact MethodName.parts_eq_of_full hfull

/-- With slashes in them, a name and a method can share their entry with others. -/
example : fullName "main/Biz" "Add" = fullName "main" "Biz/Add" := by decide

/-- A method of segments leads to a service of that name, and is of a kind
that this service has it as. -/
theorem exists_resolve?_fullName {services : List Service} {s : Service} (hs : s ∈ services)
    {m : String × MethodKind} (hm : m ∈ s.methods) (hname : IsSegment s.name) (hmethod : IsSegment m.1) :
    ∃ route, (ofServices services).resolve? (fullName s.name m.1) = some route
      ∧ route.service ∈ services ∧ route.service.name = s.name ∧ (m.1, route.kind) ∈ route.service.methods := by
  obtain ⟨route, hroute⟩ :=
    Option.isSome_iff_exists.1 (isSome_resolve?_ofServices_iff.2 ⟨s, hs, m, hm, rfl⟩)
  obtain ⟨hservice, m', hm', hfull, hkind⟩ :=
    mem_registrations_iff.1 (resolve?_ofServices_eq_some_iff.1 hroute).mem
  obtain ⟨hname', hmethod'⟩ := fullName_inj hname hmethod hfull.symm
  refine ⟨route, hroute, hservice, hname', ?_⟩
  rw [hkind, ← hmethod']
  exact hm'

/-! ## §4. All views of a table. -/

/-- **The views of a table agree**, whatever services were registered.

* The names are listed in order, each of them once.  This is so for their
  characters and for their bytes alike.
* Listed are just the full names of the services' methods.
* A name is listed just where it is said to be there, and just where a route
  is found under it.
* The route that is found is the last one that was registered under the name.
* Where the name of a service and that of its method are segments, no other
  service and method have the same entry.  It leads to a service of that
  name, as a method that this service has. -/
theorem methods_contains_resolve_agree (services : List Service) :
    (ofServices services).methods.Pairwise (· < ·)
      ∧ ((ofServices services).methods.map Bytes.ofText).Pairwise (· < ·)
      ∧ (∀ name, name ∈ (ofServices services).methods
          ↔ ∃ s ∈ services, ∃ m ∈ s.methods, name = "/" ++ s.name ++ "/" ++ m.1)
      ∧ (∀ name, ((ofServices services).contains name = true ↔ name ∈ (ofServices services).methods)
          ∧ (((ofServices services).resolve? name).isSome = true ↔ name ∈ (ofServices services).methods))
      ∧ (∀ name route, (ofServices services).resolve? name = some route ↔ IsLast services name route)
      ∧ ∀ s ∈ services, ∀ m ∈ s.methods, IsSegment s.name → IsSegment m.1 →
          (∀ s' ∈ services, ∀ m' ∈ s'.methods, (s'.name, m'.1) ≠ (s.name, m.1) →
              "/" ++ s'.name ++ "/" ++ m'.1 ≠ "/" ++ s.name ++ "/" ++ m.1)
            ∧ ∃ route, (ofServices services).resolve? ("/" ++ s.name ++ "/" ++ m.1) = some route
                ∧ route.service ∈ services ∧ route.service.name = s.name
                ∧ (m.1, route.kind) ∈ route.service.methods := by
  have hsorted : (ofServices services).methods.Pairwise (· < ·) := Dict.pairwise_keys _
  refine ⟨hsorted, ?_, fun name => ?_, fun name => ⟨mem_methods_iff.symm, mem_methods_iff.symm⟩,
    fun name route => resolve?_ofServices_eq_some_iff, fun s hs m hm hname hmethod => ⟨?_, ?_⟩⟩
  · exact List.pairwise_map.2 (hsorted.imp Bytes.ofText_lt_ofText_iff.2)
  · rw [mem_methods_iff]
    exact isSome_resolve?_ofServices_iff
  · intro s' _ m' _ hother hfull
    obtain ⟨hname', hmethod'⟩ := fullName_inj hname hmethod hfull
    exact hother (by rw [hname', hmethod'])
  · exact exists_resolve?_fullName hs hm hname hmethod

/-- A service of the name of the business service, which lists a method twice. -/
def standIn : Service :=
  { Service.unimplemented with
    name := "main.Biz", methods := [("Add", .serverStreaming), ("Check", .serverStreaming), ("Add", .unary)] }

/-- It takes over the methods that it lists, the first of them as it is listed
the second time.  The third one of the business service stays. -/
theorem later_registration_takes_over :
    (("Add", .unary) ∈ standIn.methods ∧ IsSegment standIn.name ∧ IsSegment "Add")
      ∧ (ofServices [Service.business, standIn, Service.admin 60]).resolve? "/main.Biz/Add"
        = some ⟨.unary, standIn⟩
      ∧ (ofServices [Service.business, standIn, Service.admin 60]).contains "/main.Biz/Test" = true
      ∧ (ofServices [Service.business, standIn, Service.admin 60]).contains "/main.Biz/" = false
      ∧ ∀ s ∈ [Service.business, standIn, Service.admin 60], ∀ m ∈ s.methods,
          (s.name, m.1) ≠ ("main.Biz", "Add") → "/" ++ s.name ++ "/" ++ m.1 ≠ "/main.Biz/Add" := by
  obtain ⟨-, -, hlisted, hviews, hlast, hown⟩ :=
    methods_contains_resolve_agree [Service.business, standIn, Service.admin 60]
  have hmethod : ("Add", .unary) ∈ standIn.methods := by decide
  have hservice : IsSegment standIn.name := ⟨by decide, by decide⟩
  have hadd : IsSegment "Add" := ⟨by decide, by decide⟩
  refine ⟨⟨hmethod, hservice, hadd⟩, ?_, ?_, ?_, ?_⟩
  · refine (hlast "/main.Biz/Add" ⟨.unary, standIn⟩).2
      ⟨Service.business.registrations ++ standIn.registrations.take 2, (Service.admin 60).registrations, rfl, ?_⟩
    decide
  · rw [(hviews "/main.Biz/Test").1, hlisted]
    exact ⟨Service.business, by simp, ("Test", .unary), by decide, by decide⟩
  · rw [Bool.eq_false_iff, ne_eq, (hviews "/main.Biz/").1, hlisted]
    decide
  · exact (hown standIn (by simp) ("Add", .unary) hmethod hservice hadd).1

end Routes

end CallGateway
