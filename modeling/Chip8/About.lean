/-!
# About the library

What a host can show of the machine before any program is loaded.
-/
namespace Chip8

/-- A description of the library and of the machine it runs. -/
structure About where
  /-- The name of the library. -/
  coreName : String
  /-- What the library is. -/
  coreDescription : String
  /-- Who makes the library. -/
  coreDeveloper : String
  /-- The name of the machine. -/
  platformName : String
  /-- What the machine is. -/
  platformDescription : String
  /-- Who made the machine. -/
  platformDeveloper : String
  /-- How many can play. -/
  maxPlayers : Nat
  /-- The year of the machine. -/
  releaseYear : Nat
  /-- The extensions of program files. -/
  extensions : List String
deriving DecidableEq, Repr

namespace About

/-- The description of this library. -/
def chip8 : About where
  coreName := "Chip8"
  coreDescription := "CHIP-8 Extension for the Cade Arcade System"
  coreDeveloper := "Cade"
  platformName := "CHIP-8"
  platformDescription := "Chip 8 Interpreter"
  platformDeveloper := "Joseph Weisbecker"
  maxPlayers := 1
  releaseYear := 1970
  extensions := ["c8"]

end About

end Chip8
