namespace BracketDecoration.Grammar

def languageAliases : List (String × String) :=
  [("javascriptreact", "jsx"), ("typescriptreact", "tsx"), ("jsonc", "json5"), ("scad", "json"),
    ("vb", "vbnet")]

/-- The grammar for a language; any language without an alias has its own name. -/
def idForLanguage (language : String) : String :=
  (languageAliases.lookup language).getD language

end BracketDecoration.Grammar
