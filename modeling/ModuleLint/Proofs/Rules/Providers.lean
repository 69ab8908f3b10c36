import Mathlib.Data.List.Forall2
import Mathlib.Data.List.Induction
import ModuleLint.Proofs.Modules.Graph
import ModuleLint.Rules.Builtin.Correctness
import ModuleLint.Rules.Engine
import ModuleLint.Sources.Modules

/-
  Providers that cannot be built.

  A name is reported if some module provides it and the first
  class of that name is neither injectable nor a module.  It
  is reported once, however many modules provide it and
  however often, for the first module that does.

  Main declarations:
    * `Offer`, `offers`, `ModuleGraph.FirstOffer`
    * `Builtin.IsPlain`, `Builtin.plainClass?_eq_some_iff`
    * `Builtin.Accounts`, `Builtin.exists_accounts`
    * `Builtin.plainProviders_reported_once`
-/

namespace ModuleLint

------------------------------------------------------------
-- Offers
------------------------------------------------------------

/- A provider, the module that lists it and where it does. -/
structure Offer where
  host : String
  position : Nat
  provider : String
deriving DecidableEq, Repr

/- What offers are ordered by. -/
def Offer.place
    (o : Offer) : String × Nat :=
  (o.host, o.position)

/- Everything that modules provide, in the order listed. -/
def offers
    (ns : List ModuleNode) : List Offer :=
  ns.flatMap
    (fun m =>
      m.providers.zipIdx.map (fun x => ⟨m.name, x.2, x.1⟩))

/- One offer comes before another. -/
def Offer.Before
    (o q : Offer) : Prop :=
  Prod.Lex (· < ·) (· < ·) o.place q.place

theorem mem_offers_iff
    {ns : List ModuleNode}
    {o : Offer} :
    o ∈ offers ns ↔
      ∃ m ∈ ns,
        m.name = o.host ∧
          m.providers[o.position]? = some o.provider := by
  rcases o with ⟨host, position, provider⟩
  simp only [offers, List.mem_flatMap, List.mem_map,
    List.mem_zipIdx_iff_getElem?, Offer.mk.injEq, Prod.exists]
  constructor
  · rintro ⟨m, hM, name, i, hAt, rfl, rfl, rfl⟩
    exact ⟨m, hM, rfl, hAt⟩
  · rintro ⟨m, hM, rfl, hAt⟩
    exact ⟨m, hM, provider, position, hAt, rfl, rfl, rfl⟩

/- A provider is on offer if a module lists it. -/
theorem exists_mem_offers_iff
    {ns : List ModuleNode}
    {provider : String} :
    (∃ o ∈ offers ns, o.provider = provider) ↔
      ∃ m ∈ ns, provider ∈ m.providers := by
  constructor
  · rintro ⟨o, hO, rfl⟩
    rcases mem_offers_iff.mp hO with ⟨m, hM, _, hAt⟩
    exact ⟨m, hM, List.mem_of_getElem? hAt⟩
  · rintro ⟨m, hM, hListed⟩
    rcases List.mem_iff_getElem?.mp hListed with ⟨i, hAt⟩
    exact ⟨⟨m.name, i, provider⟩,
      mem_offers_iff.mpr ⟨m, hM, rfl, hAt⟩, rfl⟩

theorem Offer.Before.ne
    {o q : Offer}
    (hBefore : o.Before q) :
    o ≠ q := by
  rintro rfl
  rcases Prod.lex_def.mp hBefore with hHost | ⟨_, hPosition⟩
  · exact String.lt_irrefl _ hHost
  · exact Nat.lt_irrefl _ hPosition

/- Offers are in order if modules are. -/
theorem pairwise_offers
    {ns : List ModuleNode}
    (hOrdered : ns.Pairwise (fun m n => m.name < n.name)) :
    (offers ns).Pairwise Offer.Before := by
  rw [offers, List.pairwise_flatMap]
  refine ⟨?_, hOrdered.imp ?_⟩
  · intro m _
    have hPositions :
        (m.providers.zipIdx.map Prod.snd).Pairwise (· < ·) := by
      rw [List.zipIdx_map_snd]
      exact List.pairwise_lt_range'
    rw [List.pairwise_map] at hPositions ⊢
    exact hPositions.imp (fun hLt => .right _ hLt)
  · intro m n hLt o hO q hQ
    rcases List.mem_map.mp hO with ⟨x, _, rfl⟩
    rcases List.mem_map.mp hQ with ⟨y, _, rfl⟩
    exact .left _ _ hLt

/- The first offer of a provider. -/
def firstOffer?
    (os : List Offer)
    (provider : String) : Option Offer :=
  os.find? (fun o => o.provider == provider)

theorem provider_of_firstOffer?
    {os : List Offer}
    {provider : String}
    {o : Offer}
    (hFirst : firstOffer? os provider = some o) :
    o.provider = provider :=
  eq_of_beq (List.find?_some hFirst :)

theorem exists_firstOffer?_iff
    {os : List Offer}
    {provider : String} :
    (∃ o, firstOffer? os provider = some o) ↔
      ∃ o ∈ os, o.provider = provider := by
  rw [← Option.isSome_iff_exists, firstOffer?,
    List.find?_isSome]
  simp

/- A later offer counts only if there was none before. -/
theorem firstOffer?_concat_eq_some_iff
    {os : List Offer}
    {last o : Offer}
    {provider : String} :
    firstOffer? (os ++ [last]) provider = some o ↔
      firstOffer? os provider = some o ∨
        (firstOffer? os provider = none ∧
          last.provider = provider ∧ last = o) := by
  unfold firstOffer?
  rw [List.find?_append, Option.or_eq_some_iff,
    List.find?_singleton]
  simp

/-
  The offer of a provider by the first module that lists it,
  at the first place where that module does.
-/
structure ModuleGraph.FirstOffer
    (g : ModuleGraph)
    (o : Offer) : Prop where
  offered :
    ∃ m ∈ g.nodes,
      m.name = o.host ∧
        m.providers[o.position]? = some o.provider
  host : ∀ m ∈ g.nodes, o.provider ∈ m.providers → o.host ≤ m.name
  position :
    ∀ m ∈ g.nodes,
      m.name = o.host →
        ∀ i < o.position, m.providers[i]? ≠ some o.provider

theorem ModuleGraph.firstOffer_of_firstOffer?
    {g : ModuleGraph}
    (hOrdered : g.nodes.Pairwise (fun m n => m.name < n.name))
    {provider : String}
    {o : Offer}
    (hFirst : firstOffer? (offers g.nodes) provider = some o) :
    g.FirstOffer o := by
  have hProvider := provider_of_firstOffer? hFirst
  rcases List.find?_eq_some_iff_append.mp hFirst with
    ⟨_, before, later, hSplit, hNone⟩
  have hPairs := pairwise_offers hOrdered
  rw [hSplit] at hPairs
  have hLater :=
    (List.pairwise_cons.mp (List.pairwise_append.mp hPairs).2.1).1
  -- All other offers of the provider come later.
  have hLeast :
      ∀ q ∈ offers g.nodes,
        q.provider = o.provider → q = o ∨ o.Before q := by
    intro q hQ hSame
    rw [hSplit, List.mem_append, List.mem_cons] at hQ
    rcases hQ with hEarly | rfl | hLate
    · have hOther := hNone q hEarly
      simp [hSame, hProvider] at hOther
    · exact .inl rfl
    · exact .inr (hLater q hLate)
  refine ⟨mem_offers_iff.mp (List.mem_of_find?_eq_some hFirst),
    ?_, ?_⟩
  · intro m hM hListed
    rcases List.mem_iff_getElem?.mp hListed with ⟨i, hAt⟩
    rcases hLeast ⟨m.name, i, o.provider⟩
        (mem_offers_iff.mpr ⟨m, hM, rfl, hAt⟩) rfl with
      hSame | hBefore
    · exact Std.le_of_eq (congrArg Offer.host hSame.symm)
    · rcases Prod.lex_def.mp hBefore with hLt | ⟨hSame, _⟩
      · exact String.not_lt.mp (String.lt_asymm hLt)
      · exact Std.le_of_eq hSame
  · intro m hM hName i hLt hAt
    rcases hLeast ⟨m.name, i, o.provider⟩
        (mem_offers_iff.mpr ⟨m, hM, rfl, hAt⟩) rfl with
      hSame | hBefore
    · rw [← hSame] at hLt
      exact Nat.lt_irrefl i hLt
    · rcases Prod.lex_def.mp hBefore with hHost | ⟨_, hMore⟩
      · exact String.ne_of_lt hHost hName.symm
      · exact Nat.lt_asymm hLt hMore

namespace Builtin

------------------------------------------------------------
-- First Classes
------------------------------------------------------------

/- All classes with their files, file by file. -/
def classesIn
    (us : List SourceUnit) : List (SourceUnit × ClassFact) :=
  us.flatMap (fun u => u.facts.classes.map (u, ·))

/-
  The first class of a name, which is neither injectable nor a
  module.
-/
structure IsPlain
    (us : List SourceUnit)
    (name : String)
    (u : SourceUnit)
    (c : ClassFact) : Prop where
  first :
    ∃ before later,
      classesIn us = before ++ (u, c) :: later ∧
        ∀ x ∈ before, x.2.name ≠ name
  named : c.name = name
  notInjectable : c.hasDecorator "Injectable" = false
  notModule : c.isOf .module = false

/- The first class of a name, if it is plain. -/
def plainClass?
    (us : List SourceUnit)
    (name : String) : Option (SourceUnit × ClassFact) :=
  (firstClass? us name).filter (fun x => lacksInjectable x.2)

theorem firstClass?_eq_find?
    (us : List SourceUnit)
    (name : String) :
    firstClass? us name =
      (classesIn us).find? (fun x => x.2.name == name) := by
  unfold firstClass? classesIn FileFacts.class?
  rw [List.find?_flatMap]
  congr 1
  funext u
  rw [List.find?_map]
  rfl

theorem plainClass?_eq_some_iff
    {us : List SourceUnit}
    {name : String}
    {u : SourceUnit}
    {c : ClassFact} :
    plainClass? us name = some (u, c) ↔ IsPlain us name u c := by
  unfold plainClass? lacksInjectable
  rw [Option.filter_eq_some_iff, firstClass?_eq_find?,
    List.find?_eq_some_iff_append]
  constructor
  · rintro ⟨⟨hName, before, later, hSplit, hBefore⟩, hLacks⟩
    simp only [Bool.and_eq_true, Bool.not_eq_eq_eq_not,
      Bool.not_true] at hLacks
    refine ⟨⟨before, later, hSplit, ?_⟩, eq_of_beq hName,
      hLacks.1, hLacks.2⟩
    intro x hX
    simpa using hBefore x hX
  · rintro ⟨⟨before, later, hSplit, hBefore⟩, hName, hDecorated,
      hModule⟩
    refine ⟨⟨beq_iff_eq.mpr hName, before, later, hSplit, ?_⟩,
      by simp [hDecorated, hModule]⟩
    intro x hX
    simpa using hBefore x hX

------------------------------------------------------------
-- Reported Names
------------------------------------------------------------

/- What is said about a plain class that a module provides. -/
def plainFinding
    (u : SourceUnit)
    (c : ClassFact)
    (host : String) : Finding :=
  u.atClass c
    (c.name ++ " is provided by " ++ host ++
      " but is not decorated with @Injectable()")

theorem checkProvider_eq
    (us : List SourceUnit)
    (seen : List String × List Finding)
    (provider host : String) :
    checkProvider us seen provider host =
      match plainClass? us provider with
      | none => seen
      | some (u, c) =>
          if provider ∈ seen.1 then seen
          else
            ( provider :: seen.1,
              seen.2 ++ [plainFinding u c host] ) := by
  unfold checkProvider plainClass?
  cases firstClass? us provider with
  | none => rfl
  | some x =>
      rcases x with ⟨u, c⟩
      cases hLacks : lacksInjectable c with
      | false => simp [Option.filter, hLacks]
      | true =>
          by_cases hSeen : provider ∈ seen.1
          · simp [Option.filter, hLacks, hSeen]
          · simp [Option.filter, hLacks, hSeen, plainFinding]

/-
  What was found after some offers: the first offers of plain
  providers, in order, their names and a finding for each.
-/
structure Accounts
    (us : List SourceUnit)
    (os : List Offer)
    (seen : List String × List Finding)
    (firsts : List Offer) : Prop where
  names : seen.1 = (firsts.map (·.provider)).reverse
  mem :
    ∀ o,
      o ∈ firsts ↔
        firstOffer? os o.provider = some o ∧
          ∃ u c, IsPlain us o.provider u c
  order : firsts.Pairwise Offer.Before
  findings :
    List.Forall₂
      (fun o f =>
        ∃ u c,
          IsPlain us o.provider u c ∧
            f = plainFinding u c o.host)
      firsts seen.2

section

variable {us : List SourceUnit}
variable {os firsts : List Offer}
variable {seen : List String × List Finding}

/- The names are those of plain providers on offer. -/
theorem Accounts.mem_names_iff
    (hAccounts : Accounts us os seen firsts)
    {name : String} :
    name ∈ firsts.map (·.provider) ↔
      (∃ o, firstOffer? os name = some o) ∧
        ∃ u c, IsPlain us name u c := by
  rw [List.mem_map]
  constructor
  · rintro ⟨o, hO, rfl⟩
    rcases (hAccounts.mem o).mp hO with ⟨hFirst, hPlain⟩
    exact ⟨⟨o, hFirst⟩, hPlain⟩
  · rintro ⟨⟨o, hFirst⟩, hPlain⟩
    have hSame := provider_of_firstOffer? hFirst
    refine ⟨o, (hAccounts.mem o).mpr ?_, hSame⟩
    rw [hSame]
    exact ⟨hFirst, hPlain⟩

/- No name is there twice. -/
theorem Accounts.nodup_names
    (hAccounts : Accounts us os seen firsts) :
    (firsts.map (·.provider)).Nodup := by
  refine List.pairwise_map.mpr (hAccounts.order.imp_of_mem ?_)
  intro o q hO hQ hBefore hSame
  have hFirst := ((hAccounts.mem o).mp hO).1
  rw [hSame, ((hAccounts.mem q).mp hQ).1] at hFirst
  exact hBefore.ne (Option.some.inj hFirst).symm

theorem Accounts.mem_seen_iff
    (hAccounts : Accounts us os seen firsts)
    {name : String} :
    name ∈ seen.1 ↔
      (∃ o, firstOffer? os name = some o) ∧
        ∃ u c, IsPlain us name u c := by
  rw [hAccounts.names, List.mem_reverse,
    hAccounts.mem_names_iff]

/- An offer that gives rise to nothing new. -/
theorem Accounts.skip
    (hAccounts : Accounts us os seen firsts)
    {o : Offer}
    (hOld :
      (∃ u c, IsPlain us o.provider u c) →
        o.provider ∈ seen.1) :
    Accounts us (os ++ [o]) seen firsts := by
  refine ⟨hAccounts.names, ?_, hAccounts.order,
    hAccounts.findings⟩
  intro q
  rw [hAccounts.mem, firstOffer?_concat_eq_some_iff]
  refine and_congr_left ?_
  intro hPlain
  refine ⟨.inl, ?_⟩
  rintro (hFirst | ⟨hNone, _, rfl⟩)
  · exact hFirst
  · rcases (hAccounts.mem_seen_iff.mp (hOld hPlain)).1 with
      ⟨first, hFirst⟩
    rw [hNone] at hFirst
    cases hFirst

/- The first offer of a plain provider. -/
theorem Accounts.report
    (hAccounts : Accounts us os seen firsts)
    {o : Offer}
    (hLast : ∀ q ∈ os, q.Before o)
    {u : SourceUnit}
    {c : ClassFact}
    (hPlain : IsPlain us o.provider u c)
    (hNew : o.provider ∉ seen.1) :
    Accounts us (os ++ [o])
      ( o.provider :: seen.1,
        seen.2 ++ [plainFinding u c o.host] )
      (firsts ++ [o]) := by
  have hNone : firstOffer? os o.provider = none := by
    cases hFirst : firstOffer? os o.provider with
    | none => rfl
    | some q =>
        exact absurd
          (hAccounts.mem_seen_iff.mpr
            ⟨⟨q, hFirst⟩, u, c, hPlain⟩) hNew
  refine ⟨?_, ?_, ?_, ?_⟩
  · simp [hAccounts.names]
  · intro q
    rw [List.mem_append, List.mem_singleton, hAccounts.mem,
      firstOffer?_concat_eq_some_iff]
    constructor
    · rintro (⟨hFirst, hOther⟩ | rfl)
      · exact ⟨.inl hFirst, hOther⟩
      · exact ⟨.inr ⟨hNone, rfl, rfl⟩, u, c, hPlain⟩
    · rintro ⟨hFirst | ⟨_, _, rfl⟩, hOther⟩
      · exact .inl ⟨hFirst, hOther⟩
      · exact .inr rfl
  · refine List.pairwise_append.mpr
      ⟨hAccounts.order, List.pairwise_singleton _ o, ?_⟩
    intro q hQ o' hO
    rw [List.mem_singleton.mp hO]
    exact hLast q
      (List.mem_of_find?_eq_some ((hAccounts.mem q).mp hQ).1)
  · exact List.rel_append hAccounts.findings
      (.cons ⟨u, c, hPlain, rfl⟩ .nil)

/- One more offer. -/
theorem Accounts.check
    (hAccounts : Accounts us os seen firsts)
    {o : Offer}
    (hLast : ∀ q ∈ os, q.Before o) :
    ∃ firsts',
      Accounts us (os ++ [o])
        (checkProvider us seen o.provider o.host) firsts' := by
  rw [checkProvider_eq]
  cases hClass : plainClass? us o.provider with
  | none =>
      refine ⟨firsts, hAccounts.skip ?_⟩
      rintro ⟨u, c, hPlain⟩
      rw [plainClass?_eq_some_iff.mpr hPlain] at hClass
      cases hClass
  | some x =>
      rcases x with ⟨u, c⟩
      by_cases hSeen : o.provider ∈ seen.1
      · simp only [if_pos hSeen]
        exact ⟨firsts, hAccounts.skip (fun _ => hSeen)⟩
      · simp only [if_neg hSeen]
        exact ⟨firsts ++ [o],
          hAccounts.report hLast
            (plainClass?_eq_some_iff.mp hClass) hSeen⟩

end

/- The names and findings after offers, one by one. -/
def checkOffers
    (us : List SourceUnit)
    (os : List Offer) : List String × List Finding :=
  os.foldl
    (fun seen o => checkProvider us seen o.provider o.host)
    ([], [])

theorem findPlainProviders_eq
    (p : Project) :
    findPlainProviders p =
      (checkOffers p.sources.units (offers p.graph.nodes)).2 := by
  unfold findPlainProviders checkOffers offers
  rw [List.foldl_flatMap]
  congr 2
  funext seen m
  rw [List.foldl_map]
  conv_lhs => rw [← List.zipIdx_map_fst 0 m.providers]
  rw [List.foldl_map]

/- What one offer preserves holds of all of them. -/
theorem exists_accounts
    (us : List SourceUnit)
    {os : List Offer}
    (hOrdered : os.Pairwise Offer.Before) :
    ∃ firsts, Accounts us os (checkOffers us os) firsts := by
  induction os using List.reverseRecOn with
  | nil =>
      refine ⟨[], rfl, ?_, .nil, .nil⟩
      simp [firstOffer?]
  | append_singleton os o ih =>
      rcases List.pairwise_append.mp hOrdered with
        ⟨hEarlier, _, hLast⟩
      rcases ih hEarlier with ⟨firsts, hAccounts⟩
      rw [checkOffers, List.foldl_concat]
      exact hAccounts.check
        (fun q hQ => hLast q hQ o (List.mem_singleton_self o))

------------------------------------------------------------
-- Diagnostics
------------------------------------------------------------

/-
  The diagnostic for a name: it stands at the plain class and
  tells the module that offers it first.
-/
def ReportsPlain
    (p : Project)
    (name : String)
    (d : Diagnostic) : Prop :=
  ∃ u c o,
    IsPlain p.sources.units name u c ∧
      p.graph.FirstOffer o ∧
      o.provider = name ∧
      d.rule = "correctness/provider-missing-injectable" ∧
      d.filePath = u.relativePath ∧
      d.line = c.line ∧
      d.column = c.column ∧
      d.message =
        name ++ " is provided by " ++ o.host ++
          " but is not decorated with @Injectable()"

theorem reportsPlain_diagnose
    {p : Project}
    {o : Offer}
    (hFirst : p.graph.FirstOffer o)
    {u : SourceUnit}
    {c : ClassFact}
    (hPlain : IsPlain p.sources.units o.provider u c) :
    ReportsPlain p o.provider
      (providerMissingInjectable.diagnose
        (plainFinding u c o.host)) := by
  refine ⟨u, c, o, hPlain, hFirst, rfl, rfl, rfl, rfl, rfl, ?_⟩
  rw [← hPlain.named]
  rfl

/-
  There is one diagnostic for every name that some module
  provides and whose first class is plain, and there are no
  others.  They come in the order in which the names are first
  offered, by the names of modules and then by position.
-/
theorem plainProviders_reported_once
    (t : RuleSettings)
    (s : SourceSet) :
    (providerMissingInjectable.runProject t
        (.ofSources s)).failures = [] ∧
      ∃ names : List String,
        names.Nodup ∧
          (∀ name,
            name ∈ names ↔
              (∃ m ∈ (Project.ofSources s).graph.nodes,
                name ∈ m.providers) ∧
                ∃ u c, IsPlain s.units name u c) ∧
          names.Pairwise
            (fun a b =>
              ∃ o q,
                (Project.ofSources s).graph.FirstOffer o ∧
                  o.provider = a ∧
                  (Project.ofSources s).graph.FirstOffer q ∧
                  q.provider = b ∧
                  o.Before q) ∧
          List.Forall₂ (ReportsPlain (.ofSources s)) names
            (providerMissingInjectable.runProject t
              (.ofSources s)).diagnostics := by
  have hOrdered :
      (Project.ofSources s).graph.nodes.Pairwise
        (fun m n => m.name < n.name) :=
    ModuleGraph.pairwise_ofNodes _
  have hDiagnostics :
      (providerMissingInjectable.runProject t
          (.ofSources s)).diagnostics =
        (findPlainProviders (.ofSources s)).map
          providerMissingInjectable.diagnose := rfl
  rcases exists_accounts s.units (pairwise_offers hOrdered) with
    ⟨firsts, hAccounts⟩
  have hFirsts :
      ∀ o ∈ firsts, (Project.ofSources s).graph.FirstOffer o := by
    intro o hO
    exact ModuleGraph.firstOffer_of_firstOffer? hOrdered
      ((hAccounts.mem o).mp hO).1
  refine ⟨rfl, firsts.map (·.provider), hAccounts.nodup_names,
    ?_, ?_, ?_⟩
  · intro name
    rw [hAccounts.mem_names_iff, exists_firstOffer?_iff,
      exists_mem_offers_iff]
  · rw [List.pairwise_map]
    refine hAccounts.order.imp_of_mem ?_
    intro o q hO hQ hBefore
    exact ⟨o, q, hFirsts o hO, rfl, hFirsts q hQ, rfl, hBefore⟩
  · rw [hDiagnostics, findPlainProviders_eq,
      List.forall₂_map_left_iff, List.forall₂_map_right_iff]
    refine ((List.forall₂_and_left _ _).mpr
      ⟨hFirsts, hAccounts.findings⟩).imp ?_
    rintro o f ⟨hFirst, u, c, hPlain, rfl⟩
    exact reportsPlain_diagnose hFirst hPlain

end Builtin

end ModuleLint
