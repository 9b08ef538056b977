/-!
# The sample program

A short program that shows every kind of token and every role of a symbol. It is analysed when no
source file is given.
-/

namespace SymbolCensus.Sample

/-- The lines of the sample program. -/
def lines : List String :=
  ["public class PotionBrewer \x7b",
   "    // Ingredient costs in gold coins",
   "    private static final double HERB_PRICE = 5.50;",
   "    private static final int MUSHROOM_PRICE = 3;",
   "    private String brewerName;",
   "    private double goldCoins;",
   "    private int potionsBrewed;",
   "",
   "    public PotionBrewer(String name, double startingGold) \x7b",
   "        this.brewerName = name;",
   "        this.goldCoins = startingGold;",
   "        this.potionsBrewed = 0;",
   "    \x7d",
   "",
   "    public static void main(String[] args) \x7b",
   "        PotionBrewer wizard = new PotionBrewer(\"Gandalf, the Wise\", 100.0);",
   "        String[] ingredients = \x7b\"Mandrake Root\", \"Dragon Scale\", \"Phoenix Feather\"\x7d;",
   "",
   "        wizard.brewHealthPotion(3, 2); // 3 herbs, 2 mushrooms",
   "        wizard.brewHealthPotion(5, 4);",
   "",
   "        wizard.printStatus();",
   "    \x7d",
   "",
   "    /* Brews a potion if we have enough gold */",
   "    public void brewHealthPotion(int herbCount, int mushroomCount) \x7b",
   "        double totalCost = (herbCount * HERB_PRICE) + (mushroomCount * MUSHROOM_PRICE",
   ");",
   "        if (totalCost <= this.goldCoins) \x7b",
   "            this.goldCoins -= totalCost; // Deduct the cost",
   "            this.potionsBrewed++;",
   "            System.out.println(\"Success! Potion brewed for \" + totalCost + \" gold.\");",
   "        \x7d else \x7b",
   "            System.out.println(\"Not enough gold! Need: \" + totalCost);",
   "        \x7d",
   "    \x7d",
   "    // Prints the current brewer status",
   "    public void printStatus() \x7b",
   "        System.out.println(\"\\n=== Brewer Status ===\");",
   "        System.out.println(\"Name: \" + this.brewerName);",
   "        System.out.println(\"Gold remaining: \" + this.goldCoins);",
   "        System.out.println(\"Potions brewed: \" + this.potionsBrewed);",
   "    \x7d",
   "\x7d"]

/-- The text of the sample program, each line ended by a newline. -/
def text : String :=
  String.join (lines.map (· ++ "\n"))

end SymbolCensus.Sample
