import AssetLint.Registry

/-!
The asset types of a run without a registry file.
-/
namespace AssetLint.Registry

def prompts : AssetSpec :=
  { name := "prompts"
    directory := ⟨"prompts/de"⟩
    pattern := "\\.prompt\\.md$"
    required := ["description", "mode", "model"]
    optional := ["tools"] }

def chatmodes : AssetSpec :=
  { name := "chatmodes"
    directory := ⟨"chatmodes/de"⟩
    pattern := "\\.chatmode\\.md$"
    required := ["name", "description", "capabilities", "boundaries"]
    optional := ["commands", "activation"] }

def instructions : AssetSpec :=
  { name := "instructions"
    directory := ⟨"instructions/de"⟩
    pattern := "\\.instructions\\.md$"
    required := ["name", "globs", "rules"]
    optional := ["autofix_hints"]
    probes := [⟨["rules:", "rules ="], "Missing rules section"⟩] }

def patterns : AssetSpec :=
  { name := "patterns"
    directory := ⟨"patterns"⟩
    pattern := "^pattern-.*\\.prompt\\.md$"
    required := ["description", "mode", "model"]
    optional := ["tools"] }

def builtin : Except RegistryError Registry :=
  ofSpecs [prompts, chatmodes, instructions, patterns]

end AssetLint.Registry
