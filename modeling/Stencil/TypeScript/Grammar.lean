import Stencil.TypeScript.Grammar.Statements

/-!
# The TypeScript grammar

The rule of each nonterminal.
-/

namespace Stencil.TypeScript

/-- The rule of each nonterminal. -/
def grammar : Nonterminal → GrammarRule
  | .program                 => Grammar.program
  | .statement inSwitch      => Grammar.statement inSwitch
  | .declaration             => Grammar.declaration
  | .statementBlock          => Grammar.statementBlock
  | .enumDeclaration         => Grammar.enumDeclaration
  | .internalModule          => Grammar.internalModule (.unless (.ending .afterExpression))
  | .ambientDeclaration      => Grammar.ambientDeclaration
  | .classBody               => Grammar.classBody
  | .classHead               => Grammar.classHead
  | .methodDefinition ending => Grammar.methodDefinition ending
  | .callSignature           => Grammar.callSignature
  | .formalParameters        => Grammar.formalParameters
  | .propertyName            => Grammar.propertyName
  | .decorator               => Grammar.decorator
  | .pattern                 => Grammar.pattern
  | .bindingTarget           => Grammar.bindingTarget
  | .destructuring           => Grammar.destructuring
  | .expressions setting     => Grammar.expressions setting
  | .expression setting      => Grammar.expression setting
  | .binary setting          => Grammar.binary setting
  | .unary setting           => Grammar.unary setting
  | .chain setting           => Grammar.chain setting
  | .primary setting         => Grammar.primary setting
  | .arrowFunction setting   => Grammar.arrowFunction setting
  | .newExpression setting   => Grammar.newExpression setting
  | .parenthesized           => Grammar.parenthesized
  | .arguments               => Grammar.arguments
  | .object                  => Grammar.object
  | .templateString          => Grammar.templateString
  | .type ending             => Grammar.type ending
  | .unionType ending        => Grammar.unionType ending
  | .intersectionType ending => Grammar.intersectionType ending
  | .operatorType ending     => Grammar.operatorType ending
  | .primaryType             => Grammar.primaryType
  | .objectType              => Grammar.objectType
  | .typeParameters          => Grammar.typeParameters
  | .typeArguments           => Grammar.typeArguments
  | .typeAscription ending   => Grammar.typeAscription ending
  | .returnAscription ending => Grammar.returnAscription ending
  | .indexSignature ending   => Grammar.indexSignature ending

end Stencil.TypeScript
