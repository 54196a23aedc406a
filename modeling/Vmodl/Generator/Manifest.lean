import Vmodl.Generator.Options

/-!
# Package manifests

The manifest of a generated package. A runtime that is a part of the package needs no dependency.
-/

namespace Vmodl.Manifest

def runtimeVersion : String := "0.1"

def slashes (path : String) : String := path.map fun c => if c = '\\' then '/' else c

/-- The dependency on the runtime, if there is one. -/
def runtimeLine? (o : Options) : Option String :=
  let name := o.dependency
  if ["crate", "self", "super"].contains name then none
  else
    let package := if name = Options.runtimePackage then [] else
      ["package = \"" ++ Options.runtimePackage ++ "\""]
    let place := match o.runtimePath with
      | some path => "path = \"" ++ slashes path ++ "\""
      | none => "version = \"" ++ runtimeVersion ++ "\""
    some (name ++ " = \x7b " ++ ", ".intercalate (package ++ [place]) ++ " \x7d")

def lines (o : Options) : List String := [
  "# This file was automatically generated by vmomi-gen. Do not edit manually.",
  "",
  "[package]",
  "name = \"" ++ o.crateName ++ "\"",
  "version = \"0.1.0\"",
  "edition = \"2024\"",
  "description = \"Typed vmodl client generated by vmomi-gen\"",
  "",
  "[lib]",
  "path = \"src/lib.rs\"",
  "",
  "[dependencies]"] ++ (runtimeLine? o).toList ++ [
  "serde = \x7b version = \"1.0\", features = [\"derive\"] \x7d",
  "serde_json = \"1.0\"",
  "strum = \x7b version = \"0.26\", features = [\"derive\"] \x7d"]

def text (o : Options) : String := String.join ((lines o).map (· ++ "\n"))

end Vmodl.Manifest
