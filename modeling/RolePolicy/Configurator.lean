import RolePolicy.Authorizer
import RolePolicy.Script

/-! Configuration passes: catalog statements and role definitions that together make an authorizer.
-/

namespace RolePolicy

/-- A catalog and a registry in the making. Roles that a definition finishes on the side stay in
`aside`. -/
structure Configurator (χ : Type) where
  catalog : Catalog := {}
  registry : Registry χ := {}
  aside : Workshop χ := {}

variable {χ ω : Type}

inductive Directive (χ ω : Type)
  | register (r : Registration)
  | role (name : String) (parents : List String) (body : Script χ ω)
  | inspect (view : Catalog → ω × Option PolicyError)

structure Directive.Guarded (χ ω : Type) where
  directive : Directive χ ω
  caught : Bool

inductive DirectiveEntry (χ ω : Type)
  | registered (outcome : Except PolicyError Unit)
  | role (outcome : Except PolicyError Unit) (body : List (Entry χ ω))
  | seen (answer : ω)

namespace Configurator

def register (c : Configurator χ) (r : Registration) : Except PolicyError Unit × Configurator χ :=
  let (outcome, catalog) := c.catalog.apply r
  (outcome.mapError .catalog, { c with catalog := catalog })

/-- No role of a refused definition reaches the registry, and the next definition is numbered as if
there had been none. -/
def role (c : Configurator χ) (name : String) (parents : List String) (body : Script χ ω) :
    List (Entry χ ω) × Except PolicyError Unit × Configurator χ :=
  let fresh : Workshop χ := { c.aside with session := {} }
  let (entries, result, w) := fresh.define name parents (body.run c.catalog)
  let refused := { c with aside := { w with builds := c.aside.builds } }
  match result with
  | .error e => (entries, .error e, refused)
  | .ok r =>
    match c.registry.add r with
    | .error e => (entries, .error e, refused)
    | .ok g => (entries, .ok (), { c with registry := g, aside := w })

def apply (c : Configurator χ) :
    Directive χ ω → DirectiveEntry χ ω × Option PolicyError × Configurator χ
  | .register r =>
    let (outcome, c') := c.register r
    (.registered outcome, failureOf outcome, c')
  | .role name parents body =>
    let (entries, outcome, c') := c.role name parents body
    (.role outcome entries, failureOf outcome, c')
  | .inspect view => (.seen (view c.catalog).1, (view c.catalog).2, c)

def run (c : Configurator χ) : List (Directive.Guarded χ ω) →
    List (DirectiveEntry χ ω) × Option PolicyError × Configurator χ
  | [] => ([], none, c)
  | d :: rest =>
    match c.apply d.directive with
    | (entry, failure, c') =>
      match failure, d.caught with
      | some e, false => ([entry], some e, c')
      | _, _ =>
        let (entries, result) := c'.run rest
        (entry :: entries, result)

end Configurator

def Authorizer.configure (config : Config) (pass : List (Directive.Guarded χ ω)) :
    List (DirectiveEntry χ ω) × Except PolicyError (Authorizer χ) :=
  let start : Configurator χ := { registry := { config := config } }
  match start.run pass with
  | (entries, some e, _) => (entries, .error e)
  | (entries, none, c) => (entries, .ok ⟨c.catalog, c.registry⟩)

end RolePolicy
