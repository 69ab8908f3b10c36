import ModuleLint.Disk.Basic
import ModuleLint.Json.Reader
import ModuleLint.Json.Decode
import ModuleLint.Report.Json

/-
  What is known about a project from the file that lists the
  packages it depends on.

  Key definitions include:
    * `HttpAdapter`, `storagePackages`
    * `PackageFile`
    * `ProjectInfo`, `Disk.projectInfo`
-/

namespace ModuleLint

open Json (row? asDict? asString? asNullable?)

------------------------------------------------------------
-- Packages
------------------------------------------------------------

/- The library that answers requests. -/
inductive HttpAdapter where
  | express
  | fastify
  | unknown
deriving DecidableEq, Repr, Inhabited

/- The name of a library that answers requests. -/
def HttpAdapter.name : HttpAdapter → String
  | express => "express"
  | fastify => "fastify"
  | unknown => "unknown"

/- Packages that store data and the names of their kinds. -/
def storagePackages : List (String × String) :=
  [ ("@nestjs/typeorm", "typeorm"), ("typeorm", "typeorm"),
    ("@prisma/client", "prisma"), ("prisma", "prisma"),
    ("@nestjs/mongoose", "mongoose"), ("mongoose", "mongoose"),
    ("@nestjs/sequelize", "sequelize"),
    ("sequelize", "sequelize"),
    ("@mikro-orm/core", "mikro-orm"),
    ("drizzle-orm", "drizzle") ]

/- The packages that a project depends on. -/
structure PackageFile where
  name : Option String := none
  dependencies : List (String × String) := []
  devDependencies : List (String × String) := []
deriving DecidableEq, Repr, Inhabited

namespace PackageFile

/- The list that JSON stands for. -/
def ofJson?
    (j : Json) : Option PackageFile := do
  let r ← row? ["name", "dependencies", "devDependencies"] j
  some
    { name := ← r.defaulted "name" (asNullable? asString?) none
      dependencies :=
        ← r.defaulted "dependencies" (asDict? asString?) []
      devDependencies :=
        ← r.defaulted "devDependencies" (asDict? asString?) [] }

/- The project depends on a package. -/
def has
    (p : PackageFile)
    (name : String) : Bool :=
  (p.dependencies ++ p.devDependencies).any
    (fun d => d.1 == name)

/- The library that answers requests. -/
def adapter
    (p : PackageFile) : HttpAdapter :=
  if p.has "@nestjs/platform-fastify" || p.has "fastify" then
    .fastify
  else if p.has "@nestjs/platform-express" || p.has "express" then
    .express
  else
    .unknown

end PackageFile

------------------------------------------------------------
-- Projects
------------------------------------------------------------

/- What is known about a project. -/
structure ProjectInfo where
  name : Option String
  frameworkVersion : Option String
  adapter : HttpAdapter
  storage : Option String
  typed : Bool
  fileCount : Nat
  moduleCount : Nat
deriving DecidableEq, Repr, Inhabited

/- What is known about a project as JSON. -/
def ProjectInfo.toJson
    (p : ProjectInfo) : Json :=
  .object
    (Json.member? "name" .string p.name ++
      Json.member? "frameworkVersion" .string p.frameworkVersion ++
      [("httpAdapter", .string p.adapter.name)] ++
      Json.member? "orm" .string p.storage ++
      [ ("typescript", .bool p.typed),
        ("fileCount", .nat p.fileCount),
        ("moduleCount", .nat p.moduleCount) ])

namespace Disk

/- The packages of a project.  A faulty list counts as none. -/
def packageFile
    (d : Disk)
    (root : RawText) : PackageFile :=
  match d.read (Path.join root "package.json") with
  | .ok text => ((Json.read? text).bind PackageFile.ofJson?).getD {}
  | .error _ => {}

/- What is known about the project below a root. -/
def projectInfo
    (d : Disk)
    (root : RawText)
    (files modules : Nat) : ProjectInfo :=
  let p := d.packageFile root
  { name := p.name
    frameworkVersion :=
      (p.dependencies.find? (fun e => e.1 == "@nestjs/core")).map
        (·.2)
    adapter := p.adapter
    storage :=
      (storagePackages.find? (fun s => p.has s.1)).map (·.2)
    typed :=
      p.has "typescript" ||
        d.hasEntry (Path.join root "tsconfig.json")
    fileCount := files
    moduleCount := modules }

end Disk

end ModuleLint
