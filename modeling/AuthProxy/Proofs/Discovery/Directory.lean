import AuthProxy.Proofs.Discovery.Versions
import AuthProxy.Proofs.Discovery.Wait

/-! # What a check finds

A server that can be read answers a check from a directory: the groups it lists and the resources of
each group and version (`Discovery.check_of_lists`). A check looks at the recommended version alone,
so what it finds is served, but what is served in another version it does not find
(`Directory.Regular.recommendsAuthenticators_eq_true_iff`).
-/

namespace AuthProxy

/-- What a server says about its API groups, with the resources of each group and version. -/
structure Directory where
  groups : List ListedGroup
  resources : String → ApiResourceList

namespace Directory

variable {d : Directory}

/-- The groups called as the operator's. -/
def own (d : Directory) : List ListedGroup :=
  d.groups.filter fun g => g.name = Authenticator.apiGroup

/-- A listed version with its resources. -/
def entry (d : Directory) (v : ListedVersion) : String × ApiResourceList :=
  (v.version, d.resources v.groupVersion)

/-- A listed group with the resources of its versions. -/
def group (d : Directory) (g : ListedGroup) : ApiGroup where
  preferred := g.preferredVersion.map (·.version)
  versions := g.versions.map d.entry

/-- What a check finds: whether the operator's group, of several the last one, serves authenticators
in its recommended version. -/
def recommendsAuthenticators (d : Directory) : Bool :=
  (d.own.getLast?.map d.group).any (·.servesAuthenticators)

/-- The operator's group serves authenticators in the version that the operator writes, whatever
other versions it has. -/
def ServesAuthenticators (d : Directory) : Prop :=
  ∃ g ∈ d.own, ∃ v ∈ g.versions,
    (Authenticator.kindName, Authenticator.version) ∈ (d.resources v.groupVersion).served

/-- Every group is listed once and so is every version of it, and the resources of a version are
served under that version. -/
structure Regular (d : Directory) : Prop where
  groups_once : (d.groups.map (·.name)).Nodup
  versions_once : ∀ g ∈ d.groups, (g.versions.map (·.version)).Nodup
  served_there : ∀ g ∈ d.groups, ∀ v ∈ g.versions, ∀ e ∈ (d.resources v.groupVersion).served,
    e.2 = v.version

end Directory

/-- From a ready state on, the server answers from the directory, and what a check asks for can be
read. -/
structure Server.Lists {σ : Type} (server : Server σ) (ready : σ → Prop) (d : Directory) :
    Prop where
  groups : ∀ s, ready s → ∃ t, ready t ∧
    Discovery.fetch server "/apis" ListedGroup.readGroups s = (.ok d.groups, t)
  versions : ∀ g ∈ d.own, g.versions ≠ []
  resources : ∀ g ∈ d.own, ∀ v ∈ g.versions, ∀ s, ready s → ∃ t, ready t ∧
    Discovery.fetch server ("/apis/" ++ v.groupVersion) ApiResourceList.read s =
      (.ok (d.resources v.groupVersion), t)

namespace ApiGroup

variable {g : ApiGroup} {v : String}

/-- The recommended version of the group serves authenticators in the version that the operator
writes. Of several versions of one name the first one counts. -/
def RecommendsAuthenticators (g : ApiGroup) : Prop :=
  ∃ v before l after, g.Recommends v ∧ g.versions = before ++ (v, l) :: after ∧
    (∀ e ∈ before, e.1 ≠ v) ∧ (Authenticator.kindName, Authenticator.version) ∈ l.served

theorem servesAuthenticators_iff : g.servesAuthenticators = true ↔ g.RecommendsAuthenticators := by
  unfold servesAuthenticators recommendedServed
  cases hv : g.recommended? with
  | none =>
    simp only [List.contains_nil, Bool.false_eq_true, false_iff]
    rintro ⟨v, before, l, after, hrecommends, -⟩
    rw [← recommended?_eq_some_iff, hv] at hrecommends
    cases hrecommends
  | some v =>
    constructor
    · intro h
      cases hl : g.versions.find? (fun e => e.1 = v) with
      | none => simp [hl] at h
      | some e =>
        obtain ⟨he, before, after, heq, hbefore⟩ := List.find?_eq_some_iff_append.1 hl
        obtain rfl : e.1 = v := by simpa using he
        refine ⟨e.1, before, e.2, after, recommended?_eq_some_iff.1 hv, heq, ?_, ?_⟩
        · simpa using hbefore
        · simpa [hl] using h
    · rintro ⟨w, before, l, after, hrecommends, heq, hbefore, hl⟩
      obtain rfl : v = w :=
        Option.some.inj (hv.symm.trans (recommended?_eq_some_iff.2 hrecommends))
      have hfind : g.versions.find? (fun e => e.1 = v) = some (v, l) :=
        List.find?_eq_some_iff_append.2 ⟨by simp, before, after, heq, by simpa using hbefore⟩
      simpa [hfind] using hl

end ApiGroup

namespace Discovery

variable {σ : Type} {server : Server σ} {ready : σ → Prop} {d : Directory} {s : σ}

theorem fetchVersions_of_lists {vs : List ListedVersion} (hs : ready s)
    (h : ∀ v ∈ vs, ∀ s, ready s → ∃ t, ready t ∧
      fetch server ("/apis/" ++ v.groupVersion) ApiResourceList.read s =
        (.ok (d.resources v.groupVersion), t)) :
    ∃ t, ready t ∧ fetchVersions server vs s = (.ok (vs.map d.entry), t) := by
  induction vs generalizing s with
  | nil => exact ⟨s, hs, rfl⟩
  | cons v vs ih =>
    obtain ⟨hv, hvs⟩ := List.forall_mem_cons.1 h
    obtain ⟨t, ht, hfetch⟩ := hv s hs
    obtain ⟨u, hu, hrest⟩ := ih ht hvs
    exact ⟨u, hu, by simp only [fetchVersions, hfetch, hrest, List.map_cons, Directory.entry]⟩

theorem fetchGroup_of_lists (h : server.Lists ready d) (hs : ready s) {g : ListedGroup}
    (hg : g ∈ d.own) : ∃ t, ready t ∧ fetchGroup server g s = (.ok (d.group g), t) := by
  obtain ⟨t, ht, hfetch⟩ := fetchVersions_of_lists hs (h.resources g hg)
  refine ⟨t, ht, ?_⟩
  have hversions : ¬g.versions.isEmpty = true := by simpa using h.versions g hg
  simp only [fetchGroup, if_neg hversions, hfetch]
  rfl

/-- The last of the groups counts. By induction on the groups. -/
theorem fetchOwn_of_lists (h : server.Lists ready d) (hs : ready s) (gs : List ListedGroup)
    (hgs : ∀ g ∈ gs, g.name = Authenticator.apiGroup → g ∈ d.own) (found : Option ApiGroup) :
    ∃ t, ready t ∧ fetchOwn server found gs s =
      (.ok (((gs.filter fun g => g.name = Authenticator.apiGroup).getLast?.map d.group).or found),
        t) := by
  induction gs generalizing s found with
  | nil => exact ⟨s, hs, rfl⟩
  | cons g gs ih =>
    obtain ⟨hg, hrest⟩ := List.forall_mem_cons.1 hgs
    by_cases hname : g.name = Authenticator.apiGroup
    · obtain ⟨t, ht, hfetch⟩ := fetchGroup_of_lists h hs (hg hname)
      obtain ⟨u, hu, hown⟩ := ih ht hrest (some (d.group g))
      refine ⟨u, hu, ?_⟩
      simp only [fetchOwn, if_pos hname, hfetch, hown]
      cases hlast : (gs.filter fun g => g.name = Authenticator.apiGroup).getLast? <;>
        simp [hname, hlast, List.getLast?_cons]
    · obtain ⟨t, ht, hown⟩ := ih hs hrest found
      exact ⟨t, ht, by simp [fetchOwn, hname, hown]⟩

theorem check_of_lists (h : server.Lists ready d) (hs : ready s) :
    ∃ t, ready t ∧ check server s = (.ok d.recommendsAuthenticators, t) := by
  obtain ⟨t, ht, hgroups⟩ := h.groups s hs
  obtain ⟨u, hu, hown⟩ := fetchOwn_of_lists h ht d.groups
    (fun g hg hname => List.mem_filter.2 ⟨hg, by simpa using hname⟩) none
  refine ⟨u, hu, ?_⟩
  simp only [check, hgroups, hown, Option.or_none]
  rfl

end Discovery

/-! ## The recommended version among the others -/

namespace Directory

variable {d : Directory} {g : ListedGroup}

theorem recommendsAuthenticators_eq_true_iff : d.recommendsAuthenticators = true ↔
    ∃ g, d.own.getLast? = some g ∧ (d.group g).RecommendsAuthenticators := by
  unfold recommendsAuthenticators
  cases d.own.getLast? <;> simp [ApiGroup.servesAuthenticators_iff]

theorem servesAuthenticators_of_recommends (hg : g ∈ d.own)
    (h : (d.group g).RecommendsAuthenticators) : d.ServesAuthenticators := by
  obtain ⟨v, before, l, after, -, hversions, -, hl⟩ := h
  have hmem : (v, l) ∈ (d.group g).versions := by simp [hversions]
  obtain ⟨w, hw, heq⟩ := List.mem_map.1 hmem
  obtain ⟨-, rfl⟩ := Prod.mk.inj heq
  exact ⟨g, hg, w, hw, hl⟩

namespace Regular

theorem own_eq (h : d.Regular) (hg : g ∈ d.own) : d.own = [g] := by
  have hnames : (d.own.map (·.name)).Nodup := h.groups_once.sublist (List.filter_sublist.map _)
  have hall : ∀ e ∈ d.own, e.name = Authenticator.apiGroup := by
    intro e he
    simpa using (List.mem_filter.1 he).2
  match hown : d.own with
  | [] => simp [hown] at hg
  | [e] =>
    rw [hown] at hg
    rw [List.mem_singleton.1 hg]
  | e :: f :: rest =>
    -- two groups of one name
    rw [hown] at hnames hall
    simp [hall e (by simp), hall f (by simp)] at hnames

/-- Authenticators are served under their own version, so that version is the recommended one. -/
theorem recommendsAuthenticators_iff (h : d.Regular) (hg : g ∈ d.own) :
    (d.group g).RecommendsAuthenticators ↔ (d.group g).Recommends Authenticator.version ∧
      ∃ v ∈ g.versions,
        (Authenticator.kindName, Authenticator.version) ∈ (d.resources v.groupVersion).served := by
  have hlisted : g ∈ d.groups := (List.mem_filter.1 hg).1
  constructor
  · rintro ⟨v, before, l, after, hrecommends, hversions, -, hl⟩
    have hmem : (v, l) ∈ (d.group g).versions := by simp [hversions]
    obtain ⟨w, hw, heq⟩ := List.mem_map.1 hmem
    obtain ⟨rfl, rfl⟩ := Prod.mk.inj heq
    have hversion : Authenticator.version = w.version := h.served_there g hlisted w hw _ hl
    exact ⟨hversion ▸ hrecommends, w, hw, hl⟩
  · rintro ⟨hrecommends, w, hw, hl⟩
    have hversion : Authenticator.version = w.version := h.served_there g hlisted w hw _ hl
    obtain ⟨before, after, hversions⟩ := List.append_of_mem hw
    have honce := h.versions_once g hlisted
    rw [hversions, List.map_append, List.map_cons, List.nodup_append] at honce
    refine ⟨w.version, before.map d.entry, _, after.map d.entry, hversion ▸ hrecommends, ?_, ?_, hl⟩
    · rw [group, hversions, List.map_append, List.map_cons, entry]
    · intro e he
      obtain ⟨u, hu, rfl⟩ := List.mem_map.1 he
      exact honce.2.2 _ (List.mem_map_of_mem hu) _ List.mem_cons_self

/-- The operator's group is there at most once, so its place among the others does not matter. -/
theorem recommendsAuthenticators_eq_true_iff (h : d.Regular) :
    d.recommendsAuthenticators = true ↔
      d.ServesAuthenticators ∧ ∃ g ∈ d.own, (d.group g).Recommends Authenticator.version := by
  rw [Directory.recommendsAuthenticators_eq_true_iff]
  constructor
  · rintro ⟨g, hlast, hrecommends⟩
    have hg := List.mem_of_getLast? hlast
    obtain ⟨hversion, hserved⟩ := (h.recommendsAuthenticators_iff hg).1 hrecommends
    exact ⟨⟨g, hg, hserved⟩, g, hg, hversion⟩
  · rintro ⟨⟨g, hg, hserved⟩, e, he, hversion⟩
    rw [h.own_eq hg] at he ⊢
    obtain rfl : e = g := List.mem_singleton.1 he
    exact ⟨e, rfl, (h.recommendsAuthenticators_iff hg).2 ⟨hversion, hserved⟩⟩

end Regular

end Directory

/-! ## A server that always says the same -/

namespace Poll

variable {p : Poll} {deadline : Nat} {s : PolledServer}

/-- The response for a path. -/
def response (p : Poll) (path : String) : Response :=
  ((p.find? fun e => e.1 = path).map (·.2)).getD .notFound

/-- The document at a path. -/
def fetch {α : Type} (p : Poll) (path : String) (read : Json.Written → Read α) :
    Except ApiError α :=
  match Target.ofText path with
  | .error e => .error (.badLink e)
  | .ok target => (p.response target.path).document read

/-- What the responses say, as far as they can be read. -/
def directory (p : Poll) : Directory where
  groups := (p.fetch "/apis" ListedGroup.readGroups).toOption.getD []
  resources groupVersion :=
    (p.fetch ("/apis/" ++ groupVersion) ApiResourceList.read).toOption.getD {}

/-- What a check asks for can be read. -/
structure Readable (p : Poll) : Prop where
  groups : (p.fetch "/apis" ListedGroup.readGroups).isOk = true
  versions : ∀ g ∈ p.directory.own, g.versions ≠ []
  resources : ∀ g ∈ p.directory.own, ∀ v ∈ g.versions,
    (p.fetch ("/apis/" ++ v.groupVersion) ApiResourceList.read).isOk = true

theorem fetch_server {α : Type} (hs : s.polls = [p]) (path : String)
    (read : Json.Written → Read α) : ∃ t : PolledServer, t.polls = [p] ∧
      Discovery.fetch PolledServer.server path read s = (p.fetch path read, t) := by
  unfold Discovery.fetch fetch
  cases Target.ofText path with
  | error e => exact ⟨s, hs, rfl⟩
  | ok target =>
    have hadvance : s.advance.polls = [p] := by
      unfold PolledServer.advance
      split
      · simp_all
      · exact hs
    by_cases hpath : target.path = "/apis"
    · refine ⟨_, ?_, Prod.ext ?_ rfl⟩ <;> simp [PolledServer.server, response, hpath, hadvance]
    · refine ⟨_, ?_, Prod.ext ?_ rfl⟩ <;> simp [PolledServer.server, response, hpath, hs]

theorem eq_ok_of_isOk {ε α : Type} {r : Except ε α} (h : r.isOk = true) (a : α) :
    r = .ok (r.toOption.getD a) := by
  cases r with
  | error => cases h
  | ok => rfl

theorem lists (h : p.Readable) : PolledServer.server.Lists (·.polls = [p]) p.directory where
  groups s hs := by
    obtain ⟨t, ht, hfetch⟩ := fetch_server hs "/apis" ListedGroup.readGroups
    exact ⟨t, ht, by rw [hfetch, eq_ok_of_isOk h.groups]; rfl⟩
  versions := h.versions
  resources g hg v hv s hs := by
    obtain ⟨t, ht, hfetch⟩ := fetch_server hs ("/apis/" ++ v.groupVersion) ApiResourceList.read
    exact ⟨t, ht, by rw [hfetch, eq_ok_of_isOk (h.resources g hg v hv)]; rfl⟩

theorem check_of_readable (h : p.Readable) (hs : s.polls = [p]) (now : Nat) :
    ∃ t : PolledServer, t.polls = [p] ∧
      PolledServer.check now s = (.ok p.directory.recommendsAuthenticators, t) := by
  have hnow : ({ s with now } : PolledServer).polls = [p] := hs
  obtain ⟨t, ht, hcheck⟩ := Discovery.check_of_lists (lists h) hnow
  exact ⟨t, ht, by simp only [PolledServer.check, hcheck]; rfl⟩

theorem polls_stateBefore (h : p.Readable) (hs : s.polls = [p]) (i : Nat) :
    (Wait.stateBefore PolledServer.check s i).polls = [p] := by
  induction i with
  | zero => exact hs
  | succ i ih =>
    obtain ⟨t, ht, hcheck⟩ := check_of_readable h ih (Wait.timeOf i)
    rw [Wait.stateBefore, hcheck]
    exact ht

/-- Waiting for a server that always says the same comes to an end with the first check or never. -/
theorem wait_finished_iff (h : p.Readable) (hs : s.polls = [p]) :
    (PolledServer.wait deadline s).1.finished = true ↔
      0 < deadline ∧ p.directory.recommendsAuthenticators = true := by
  have hresult : ∀ i, Wait.result PolledServer.check s i =
      .ok p.directory.recommendsAuthenticators := by
    intro i
    obtain ⟨t, -, hcheck⟩ := check_of_readable h (polls_stateBefore h hs i) (Wait.timeOf i)
    rw [Wait.result, hcheck]
  obtain ⟨n, hbefore, hlate⟩ := Wait.exists_checks_before deadline
  have hn : 0 < deadline ↔ n ≠ 0 := by
    constructor
    · rintro hdeadline rfl
      simp only [Wait.timeOf] at hlate
      omega
    · intro hn
      exact hbefore 0 (Nat.pos_of_ne_zero hn)
  rw [PolledServer.wait, Wait.untilTime_eq hbefore hlate, ← not_iff_not, Bool.not_eq_true,
    Wait.through_unfinished_iff, hn]
  simp only [Wait.results, List.forall_mem_map, List.mem_range, hresult, Wait.found, not_and,
    Bool.not_eq_true]
  exact ⟨fun h hn => h 0 (Nat.pos_of_ne_zero hn), fun h i hi => h (by omega)⟩

/-! ## Two versions of one group -/

/-- A text in pieces, as a value to be read. The characters are taken from each of the pieces. -/
def written (pieces : List String) : Json.Written :=
  ⟨⟨pieces.flatMap String.toList, .start⟩, 2 * (pieces.flatMap String.toList).length + 2⟩

theorem fetch_eq_ok {α : Type} {path : String} {read : Json.Written → Read α} {a : α}
    (pieces : List String) (htarget : Target.ofText path = .ok { path })
    (hresponse : p.response path = ⟨200, String.join pieces⟩)
    (hread : read (written pieces) = .ok a) (hfinish : (written pieces).finish = .ok ()) :
    p.fetch path read = .ok a := by
  have hwritten : Json.Written.ofText (String.join pieces) = written pieces := by
    simp only [Json.Written.ofText, Json.Cursor.ofText, Json.Cursor.steps, String.toList_join]
    rfl
  have hdocument : Json.readText read (String.join pieces) = .ok a := by
    simp only [Json.readText, hwritten, hread, hfinish]
    rfl
  simp only [fetch, htarget, hresponse, Response.document, hdocument]
  rfl

/-- A version of the operator's group. -/
def ownVersion (v : String) : ListedVersion := ⟨Authenticator.apiGroup ++ "/" ++ v, v⟩

/-- The resources of a version that serves authenticators. -/
def ownResources (v : String) : ApiResourceList where
  groupVersion := (ownVersion v).groupVersion
  resources := [{ name := "basicauthenticators", kind := Authenticator.kindName }]

def bothVersions : List String := ["v1beta1", "v1alpha1"]

/-- The operator's group with a beta and an alpha version, one of which is preferred. -/
def twoVersions (preferred : String) : ListedGroup where
  name := Authenticator.apiGroup
  preferredVersion := some (ownVersion preferred)
  versions := bothVersions.map ownVersion

/-- The text of the listing of a version, in pieces. -/
def versionPieces (v : ListedVersion) : List String :=
  ["\x7b\"groupVersion\":\"", v.groupVersion, "\",\"version\":\"", v.version, "\"\x7d"]

def groupPieces (g : ListedGroup) : List String :=
  ["\x7b\"groups\":[\x7b\"name\":\"", g.name, "\",\"preferredVersion\":"] ++
    versionPieces (g.preferredVersion.getD {}) ++ [",\"versions\":["] ++
    [","].intercalate (g.versions.map versionPieces) ++ ["]\x7d]\x7d"]

def resourcePieces (v : String) : List String :=
  ["\x7b\"groupVersion\":\"", (ownVersion v).groupVersion, "\",\"resources\":[\x7b\"kind\":\"",
    Authenticator.kindName, "\",\"name\":\"basicauthenticators\"\x7d]\x7d"]

/-- The responses of a server that serves authenticators in both versions. -/
def ofTwoVersions (preferred : String) : Poll :=
  ("/apis", ⟨200, String.join (groupPieces (twoVersions preferred))⟩) :: bothVersions.map fun v =>
    ("/apis/" ++ (ownVersion v).groupVersion, ⟨200, String.join (resourcePieces v)⟩)

variable {preferred v : String}

theorem mem_bothVersions : v ∈ bothVersions ↔ v = "v1beta1" ∨ v = "v1alpha1" := by
  simp [bothVersions]

theorem fetch_groups (h : preferred ∈ bothVersions) :
    (ofTwoVersions preferred).fetch "/apis" ListedGroup.readGroups =
      .ok [twoVersions preferred] := by
  rcases mem_bothVersions.1 h with rfl | rfl
  all_goals
    exact fetch_eq_ok (groupPieces (twoVersions _)) (by decide +kernel) rfl (by decide +kernel)
      (by decide +kernel)

theorem fetch_resources (h : v ∈ bothVersions) :
    (ofTwoVersions preferred).fetch ("/apis/" ++ (ownVersion v).groupVersion)
      ApiResourceList.read = .ok (ownResources v) := by
  rcases mem_bothVersions.1 h with rfl | rfl
  all_goals
    exact fetch_eq_ok (resourcePieces _) (by decide +kernel) rfl (by decide +kernel)
      (by decide +kernel)

theorem groups_ofTwoVersions (h : preferred ∈ bothVersions) :
    (ofTwoVersions preferred).directory.groups = [twoVersions preferred] := by
  simp [directory, fetch_groups h, Except.toOption]

theorem own_ofTwoVersions (h : preferred ∈ bothVersions) :
    (ofTwoVersions preferred).directory.own = [twoVersions preferred] := by
  simp [Directory.own, groups_ofTwoVersions h, twoVersions]

theorem resources_ofTwoVersions (h : v ∈ bothVersions) :
    (ofTwoVersions preferred).directory.resources (ownVersion v).groupVersion =
      ownResources v := by
  simp [directory, fetch_resources h, Except.toOption]

theorem ofTwoVersions_readable (h : preferred ∈ bothVersions) :
    (ofTwoVersions preferred).Readable where
  groups := by rw [fetch_groups h]; rfl
  versions := by simp [own_ofTwoVersions h, twoVersions, bothVersions]
  resources := by
    simp only [own_ofTwoVersions h, List.forall_mem_singleton, twoVersions, List.forall_mem_map]
    intro v hv
    rw [fetch_resources hv]
    rfl

theorem ofTwoVersions_regular (h : preferred ∈ bothVersions) :
    (ofTwoVersions preferred).directory.Regular where
  groups_once := by simp [groups_ofTwoVersions h]
  versions_once := by
    simp [groups_ofTwoVersions h, twoVersions, bothVersions, ownVersion]
  served_there := by
    simp only [groups_ofTwoVersions h, List.forall_mem_singleton, twoVersions, List.forall_mem_map]
    intro v hv
    rw [resources_ofTwoVersions hv]
    decide +revert +kernel

theorem ofTwoVersions_serves (h : preferred ∈ bothVersions) :
    (ofTwoVersions preferred).directory.ServesAuthenticators := by
  have hv : "v1alpha1" ∈ bothVersions := mem_bothVersions.2 (.inr rfl)
  refine ⟨twoVersions preferred, by simp [own_ofTwoVersions h], ownVersion "v1alpha1",
    List.mem_map_of_mem hv, ?_⟩
  rw [resources_ofTwoVersions hv]
  decide +kernel

/-- They are found in the preferred version only. -/
theorem recommendsAuthenticators_ofTwoVersions (h : preferred ∈ bothVersions) :
    (ofTwoVersions preferred).directory.recommendsAuthenticators = true ↔
      preferred = Authenticator.version := by
  rw [(ofTwoVersions_regular h).recommendsAuthenticators_eq_true_iff]
  simp only [ofTwoVersions_serves h, own_ofTwoVersions h, List.mem_singleton, exists_eq_left,
    true_and]
  constructor
  · rintro (hpreferred | ⟨hnone, -⟩)
    · exact Option.some.inj hpreferred
    · cases hnone
  · rintro rfl
    exact .preferred rfl

end Poll

/-! ## What a check finds -/

namespace Discovery

open Poll

variable {σ : Type} {server : Server σ} {ready : σ → Prop} {d : Directory} {s : σ}

/-- **What a check finds.** Whatever a server lists, as long as it can be read, a check comes to an
answer: authenticators are found if and only if the recommended version of the operator's group, of
several such groups the last one, serves them. What is found is served. If groups and versions are
listed once, what is served is found if and only if the version of the authenticators is the
recommended one, in whatever order the versions are listed. -/
theorem check_finds_recommended (h : server.Lists ready d) (hs : ready s) :
    ∃ b, (check server s).1 = .ok b ∧
      (b = true ↔ ∃ g, d.own.getLast? = some g ∧ (d.group g).RecommendsAuthenticators) ∧
      (b = true → d.ServesAuthenticators) ∧
      (d.Regular → (b = true ↔
        d.ServesAuthenticators ∧ ∃ g ∈ d.own, (d.group g).Recommends Authenticator.version)) := by
  obtain ⟨t, -, hcheck⟩ := check_of_lists h hs
  refine ⟨_, congrArg Prod.fst hcheck, Directory.recommendsAuthenticators_eq_true_iff, ?_,
    Directory.Regular.recommendsAuthenticators_eq_true_iff⟩
  rw [Directory.recommendsAuthenticators_eq_true_iff]
  rintro ⟨g, hlast, hrecommends⟩
  exact Directory.servesAuthenticators_of_recommends (List.mem_of_getLast? hlast) hrecommends

/-- The version of the authenticators is found beside another one if it is the preferred one. -/
theorem check_finds_preferred :
    let p := ofTwoVersions "v1alpha1"
    let s : PolledServer := { polls := [p] }
    PolledServer.server.Lists (·.polls = [p]) p.directory ∧ s.polls = [p] ∧
      p.directory.Regular ∧ (check PolledServer.server s).1 = .ok true := by
  intro p s
  have hp : "v1alpha1" ∈ bothVersions := mem_bothVersions.2 (.inr rfl)
  have hlists := lists (ofTwoVersions_readable hp)
  obtain ⟨b, hb, hfound, -, -⟩ := check_finds_recommended (s := s) hlists rfl
  obtain rfl : b = true := by
    rw [hfound, ← Directory.recommendsAuthenticators_eq_true_iff,
      recommendsAuthenticators_ofTwoVersions hp]
    rfl
  exact ⟨hlists, rfl, ofTwoVersions_regular hp, hb⟩

/-- It is not found, although it is served, if the other one is preferred, and then waiting for it
has no end. -/
theorem check_misses_served :
    let p := ofTwoVersions "v1beta1"
    let s : PolledServer := { polls := [p] }
    PolledServer.server.Lists (·.polls = [p]) p.directory ∧ s.polls = [p] ∧
      p.directory.ServesAuthenticators ∧ (check PolledServer.server s).1 = .ok false ∧
      ∀ deadline, (PolledServer.wait deadline s).1.finished = false := by
  intro p s
  have hp : "v1beta1" ∈ bothVersions := mem_bothVersions.2 (.inl rfl)
  have hreadable : p.Readable := ofTwoVersions_readable hp
  have hmissed : p.directory.recommendsAuthenticators = false := by
    rw [← Bool.not_eq_true, recommendsAuthenticators_ofTwoVersions hp]
    decide
  obtain ⟨t, -, hcheck⟩ := check_of_lists (s := s) (lists hreadable) rfl
  refine ⟨lists hreadable, rfl, ofTwoVersions_serves hp, ?_, ?_⟩
  · rw [hcheck, hmissed]
  · intro deadline
    rw [← Bool.not_eq_true, wait_finished_iff hreadable rfl, hmissed]
    simp

end Discovery

end AuthProxy
