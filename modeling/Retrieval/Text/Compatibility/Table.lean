import Retrieval.Text.CodeTable

/-!
# The tables of the compatibility forms

* `expansions` : the full compatibility decompositions, Hangul syllables apart;
* `composites` : the primary composites, as triples of first, second and composite;
* `combiningRuns` : the combining classes other than zero, as triples of first, last and class.
-/

namespace Retrieval.Text

def expansionRowsA : List Nat :=
  [0x8000A0_000020_8000A8_000020_000308_8000AA_000061_8000AF_000020_000304_8000B2_000032,
   0x8000B3_000033_8000B4_000020_000301_8000B5_0003BC_8000B8_000020_000327_8000B9_000031,
   0x8000BA_00006F_8000BC_000031_002044_000034_8000BD_000031_002044_000032_8000BE_000033,
   0x002044_000034_8000C0_000041_000300_8000C1_000041_000301_8000C2_000041_000302_8000C3,
   0x000041_000303_8000C4_000041_000308_8000C5_000041_00030A_8000C7_000043_000327_8000C8,
   0x000045_000300_8000C9_000045_000301_8000CA_000045_000302_8000CB_000045_000308_8000CC,
   0x000049_000300_8000CD_000049_000301_8000CE_000049_000302_8000CF_000049_000308_8000D1,
   0x00004E_000303_8000D2_00004F_000300_8000D3_00004F_000301_8000D4_00004F_000302_8000D5,
   0x00004F_000303_8000D6_00004F_000308_8000D9_000055_000300_8000DA_000055_000301_8000DB,
   0x000055_000302_8000DC_000055_000308_8000DD_000059_000301_8000E0_000061_000300_8000E1,
   0x000061_000301_8000E2_000061_000302_8000E3_000061_000303_8000E4_000061_000308_8000E5,
   0x000061_00030A_8000E7_000063_000327_8000E8_000065_000300_8000E9_000065_000301_8000EA,
   0x000065_000302_8000EB_000065_000308_8000EC_000069_000300_8000ED_000069_000301_8000EE,
   0x000069_000302_8000EF_000069_000308_8000F1_00006E_000303_8000F2_00006F_000300_8000F3,
   0x00006F_000301_8000F4_00006F_000302_8000F5_00006F_000303_8000F6_00006F_000308_8000F9,
   0x000075_000300_8000FA_000075_000301_8000FB_000075_000302_8000FC_000075_000308_8000FD,
   0x000079_000301_8000FF_000079_000308_800100_000041_000304_800101_000061_000304_800102,
   0x000041_000306_800103_000061_000306_800104_000041_000328_800105_000061_000328_800106,
   0x000043_000301_800107_000063_000301_800108_000043_000302_800109_000063_000302_80010A,
   0x000043_000307_80010B_000063_000307_80010C_000043_00030C_80010D_000063_00030C_80010E,
   0x000044_00030C_80010F_000064_00030C_800112_000045_000304_800113_000065_000304_800114,
   0x000045_000306_800115_000065_000306_800116_000045_000307_800117_000065_000307_800118,
   0x000045_000328_800119_000065_000328_80011A_000045_00030C_80011B_000065_00030C_80011C,
   0x000047_000302_80011D_000067_000302_80011E_000047_000306_80011F_000067_000306_800120,
   0x000047_000307_800121_000067_000307_800122_000047_000327_800123_000067_000327_800124,
   0x000048_000302_800125_000068_000302_800128_000049_000303_800129_000069_000303_80012A,
   0x000049_000304_80012B_000069_000304_80012C_000049_000306_80012D_000069_000306_80012E,
   0x000049_000328_80012F_000069_000328_800130_000049_000307_800132_000049_00004A_800133,
   0x000069_00006A_800134_00004A_000302_800135_00006A_000302_800136_00004B_000327_800137,
   0x00006B_000327_800139_00004C_000301_80013A_00006C_000301_80013B_00004C_000327_80013C,
   0x00006C_000327_80013D_00004C_00030C_80013E_00006C_00030C_80013F_00004C_0000B7_800140,
   0x00006C_0000B7_800143_00004E_000301_800144_00006E_000301_800145_00004E_000327_800146,
   0x00006E_000327_800147_00004E_00030C_800148_00006E_00030C_800149_0002BC_00006E_80014C,
   0x00004F_000304_80014D_00006F_000304_80014E_00004F_000306_80014F_00006F_000306_800150,
   0x00004F_00030B_800151_00006F_00030B_800154_000052_000301_800155_000072_000301_800156,
   0x000052_000327_800157_000072_000327_800158_000052_00030C_800159_000072_00030C_80015A,
   0x000053_000301_80015B_000073_000301_80015C_000053_000302_80015D_000073_000302_80015E,
   0x000053_000327_80015F_000073_000327_800160_000053_00030C_800161_000073_00030C_800162,
   0x000054_000327_800163_000074_000327_800164_000054_00030C_800165_000074_00030C_800168,
   0x000055_000303_800169_000075_000303_80016A_000055_000304_80016B_000075_000304_80016C,
   0x000055_000306_80016D_000075_000306_80016E_000055_00030A_80016F_000075_00030A_800170,
   0x000055_00030B_800171_000075_00030B_800172_000055_000328_800173_000075_000328_800174,
   0x000057_000302_800175_000077_000302_800176_000059_000302_800177_000079_000302_800178,
   0x000059_000308_800179_00005A_000301_80017A_00007A_000301_80017B_00005A_000307_80017C,
   0x00007A_000307_80017D_00005A_00030C_80017E_00007A_00030C_80017F_000073_8001A0_00004F,
   0x00031B_8001A1_00006F_00031B_8001AF_000055_00031B_8001B0_000075_00031B_8001C4_000044,
   0x00005A_00030C_8001C5_000044_00007A_00030C_8001C6_000064_00007A_00030C_8001C7_00004C,
   0x00004A_8001C8_00004C_00006A_8001C9_00006C_00006A_8001CA_00004E_00004A_8001CB_00004E,
   0x00006A_8001CC_00006E_00006A_8001CD_000041_00030C_8001CE_000061_00030C_8001CF_000049,
   0x00030C_8001D0_000069_00030C_8001D1_00004F_00030C_8001D2_00006F_00030C_8001D3_000055,
   0x00030C_8001D4_000075_00030C_8001D5_000055_000308_000304_8001D6_000075_000308_000304,
   0x8001D7_000055_000308_000301_8001D8_000075_000308_000301_8001D9_000055_000308_00030C,
   0x8001DA_000075_000308_00030C_8001DB_000055_000308_000300_8001DC_000075_000308_000300,
   0x8001DE_000041_000308_000304_8001DF_000061_000308_000304_8001E0_000041_000307_000304,
   0x8001E1_000061_000307_000304_8001E2_0000C6_000304_8001E3_0000E6_000304_8001E6_000047,
   0x00030C_8001E7_000067_00030C_8001E8_00004B_00030C_8001E9_00006B_00030C_8001EA_00004F,
   0x000328_8001EB_00006F_000328_8001EC_00004F_000328_000304_8001ED_00006F_000328_000304,
   0x8001EE_0001B7_00030C_8001EF_000292_00030C_8001F0_00006A_00030C_8001F1_000044_00005A,
   0x8001F2_000044_00007A_8001F3_000064_00007A_8001F4_000047_000301_8001F5_000067_000301,
   0x8001F8_00004E_000300_8001F9_00006E_000300_8001FA_000041_00030A_000301_8001FB_000061,
   0x00030A_000301_8001FC_0000C6_000301_8001FD_0000E6_000301_8001FE_0000D8_000301_8001FF,
   0x0000F8_000301_800200_000041_00030F_800201_000061_00030F_800202_000041_000311_800203,
   0x000061_000311_800204_000045_00030F_800205_000065_00030F_800206_000045_000311_800207,
   0x000065_000311_800208_000049_00030F_800209_000069_00030F_80020A_000049_000311_80020B,
   0x000069_000311_80020C_00004F_00030F_80020D_00006F_00030F_80020E_00004F_000311_80020F,
   0x00006F_000311_800210_000052_00030F_800211_000072_00030F_800212_000052_000311_800213,
   0x000072_000311_800214_000055_00030F_800215_000075_00030F_800216_000055_000311_800217,
   0x000075_000311_800218_000053_000326_800219_000073_000326_80021A_000054_000326_80021B,
   0x000074_000326_80021E_000048_00030C_80021F_000068_00030C_800226_000041_000307_800227,
   0x000061_000307_800228_000045_000327_800229_000065_000327_80022A_00004F_000308_000304,
   0x80022B_00006F_000308_000304_80022C_00004F_000303_000304_80022D_00006F_000303_000304,
   0x80022E_00004F_000307_80022F_00006F_000307_800230_00004F_000307_000304_800231_00006F,
   0x000307_000304_800232_000059_000304_800233_000079_000304_8002B0_000068_8002B1_000266,
   0x8002B2_00006A_8002B3_000072_8002B4_000279_8002B5_00027B_8002B6_000281_8002B7_000077,
   0x8002B8_000079_8002D8_000020_000306_8002D9_000020_000307_8002DA_000020_00030A_8002DB,
   0x000020_000328_8002DC_000020_000303_8002DD_000020_00030B_8002E0_000263_8002E1_00006C,
   0x8002E2_000073_8002E3_000078_8002E4_000295_800340_000300_800341_000301_800343_000313,
   0x800344_000308_000301_800374_0002B9_80037A_000020_000345_80037E_00003B_800384_000020,
   0x000301_800385_000020_000308_000301_800386_000391_000301_800387_0000B7_800388_000395,
   0x000301_800389_000397_000301_80038A_000399_000301_80038C_00039F_000301_80038E_0003A5,
   0x000301_80038F_0003A9_000301_800390_0003B9_000308_000301_8003AA_000399_000308_8003AB,
   0x0003A5_000308_8003AC_0003B1_000301_8003AD_0003B5_000301_8003AE_0003B7_000301_8003AF,
   0x0003B9_000301_8003B0_0003C5_000308_000301_8003CA_0003B9_000308_8003CB_0003C5_000308,
   0x8003CC_0003BF_000301_8003CD_0003C5_000301_8003CE_0003C9_000301_8003D0_0003B2_8003D1,
   0x0003B8_8003D2_0003A5_8003D3_0003A5_000301_8003D4_0003A5_000308_8003D5_0003C6_8003D6,
   0x0003C0_8003F0_0003BA_8003F1_0003C1_8003F2_0003C2_8003F4_000398_8003F5_0003B5_8003F9,
   0x0003A3_800400_000415_000300_800401_000415_000308_800403_000413_000301_800407_000406,
   0x000308_80040C_00041A_000301_80040D_000418_000300_80040E_000423_000306_800419_000418,
   0x000306_800439_000438_000306_800450_000435_000300_800451_000435_000308_800453_000433,
   0x000301_800457_000456_000308_80045C_00043A_000301_80045D_000438_000300_80045E_000443,
   0x000306_800476_000474_00030F_800477_000475_00030F_8004C1_000416_000306_8004C2_000436,
   0x000306_8004D0_000410_000306_8004D1_000430_000306_8004D2_000410_000308_8004D3_000430,
   0x000308_8004D6_000415_000306_8004D7_000435_000306_8004DA_0004D8_000308_8004DB_0004D9,
   0x000308_8004DC_000416_000308_8004DD_000436_000308_8004DE_000417_000308_8004DF_000437,
   0x000308_8004E2_000418_000304_8004E3_000438_000304_8004E4_000418_000308_8004E5_000438,
   0x000308_8004E6_00041E_000308_8004E7_00043E_000308_8004EA_0004E8_000308_8004EB_0004E9,
   0x000308_8004EC_00042D_000308_8004ED_00044D_000308_8004EE_000423_000304_8004EF_000443,
   0x000304_8004F0_000423_000308_8004F1_000443_000308_8004F2_000423_00030B_8004F3_000443,
   0x00030B_8004F4_000427_000308_8004F5_000447_000308_8004F8_00042B_000308_8004F9_00044B,
   0x000308_800587_000565_000582_800622_000627_000653_800623_000627_000654_800624_000648,
   0x000654_800625_000627_000655_800626_00064A_000654_800675_000627_000674_800676_000648,
   0x000674_800677_0006C7_000674_800678_00064A_000674_8006C0_0006D5_000654_8006C2_0006C1,
   0x000654_8006D3_0006D2_000654_800929_000928_00093C_800931_000930_00093C_800934_000933,
   0x00093C_800958_000915_00093C_800959_000916_00093C_80095A_000917_00093C_80095B_00091C,
   0x00093C_80095C_000921_00093C_80095D_000922_00093C_80095E_00092B_00093C_80095F_00092F,
   0x00093C_8009CB_0009C7_0009BE_8009CC_0009C7_0009D7_8009DC_0009A1_0009BC_8009DD_0009A2,
   0x0009BC_8009DF_0009AF_0009BC_800A33_000A32_000A3C_800A36_000A38_000A3C_800A59_000A16,
   0x000A3C_800A5A_000A17_000A3C_800A5B_000A1C_000A3C_800A5E_000A2B_000A3C_800B48_000B47,
   0x000B56_800B4B_000B47_000B3E_800B4C_000B47_000B57_800B5C_000B21_000B3C_800B5D_000B22,
   0x000B3C_800B94_000B92_000BD7_800BCA_000BC6_000BBE_800BCB_000BC7_000BBE_800BCC_000BC6,
   0x000BD7_800C48_000C46_000C56_800CC0_000CBF_000CD5_800CC7_000CC6_000CD5_800CC8_000CC6,
   0x000CD6_800CCA_000CC6_000CC2_800CCB_000CC6_000CC2_000CD5_800D4A_000D46_000D3E_800D4B,
   0x000D47_000D3E_800D4C_000D46_000D57_800DDA_000DD9_000DCA_800DDC_000DD9_000DCF_800DDD,
   0x000DD9_000DCF_000DCA_800DDE_000DD9_000DDF_800E33_000E4D_000E32_800EB3_000ECD_000EB2,
   0x800EDC_000EAB_000E99_800EDD_000EAB_000EA1_800F0C_000F0B_800F43_000F42_000FB7_800F4D,
   0x000F4C_000FB7_800F52_000F51_000FB7_800F57_000F56_000FB7_800F5C_000F5B_000FB7_800F69,
   0x000F40_000FB5_800F73_000F71_000F72_800F75_000F71_000F74_800F76_000FB2_000F80_800F77,
   0x000FB2_000F71_000F80_800F78_000FB3_000F80_800F79_000FB3_000F71_000F80_800F81_000F71,
   0x000F80_800F93_000F92_000FB7_800F9D_000F9C_000FB7_800FA2_000FA1_000FB7_800FA7_000FA6,
   0x000FB7_800FAC_000FAB_000FB7_800FB9_000F90_000FB5_801026_001025_00102E_8010FC_0010DC,
   0x801B06_001B05_001B35_801B08_001B07_001B35_801B0A_001B09_001B35_801B0C_001B0B_001B35,
   0x801B0E_001B0D_001B35_801B12_001B11_001B35_801B3B_001B3A_001B35_801B3D_001B3C_001B35,
   0x801B40_001B3E_001B35_801B41_001B3F_001B35_801B43_001B42_001B35_801D2C_000041_801D2D,
   0x0000C6_801D2E_000042_801D30_000044_801D31_000045_801D32_00018E_801D33_000047_801D34,
   0x000048_801D35_000049_801D36_00004A_801D37_00004B_801D38_00004C_801D39_00004D_801D3A,
   0x00004E_801D3C_00004F_801D3D_000222_801D3E_000050_801D3F_000052_801D40_000054_801D41,
   0x000055_801D42_000057_801D43_000061_801D44_000250_801D45_000251_801D46_001D02_801D47,
   0x000062_801D48_000064_801D49_000065_801D4A_000259_801D4B_00025B_801D4C_00025C_801D4D,
   0x000067_801D4F_00006B_801D50_00006D_801D51_00014B_801D52_00006F_801D53_000254_801D54,
   0x001D16_801D55_001D17_801D56_000070_801D57_000074_801D58_000075_801D59_001D1D_801D5A,
   0x00026F_801D5B_000076_801D5C_001D25_801D5D_0003B2_801D5E_0003B3_801D5F_0003B4_801D60,
   0x0003C6_801D61_0003C7_801D62_000069_801D63_000072_801D64_000075_801D65_000076_801D66,
   0x0003B2_801D67_0003B3_801D68_0003C1_801D69_0003C6_801D6A_0003C7_801D78_00043D_801D9B,
   0x000252_801D9C_000063_801D9D_000255_801D9E_0000F0_801D9F_00025C_801DA0_000066_801DA1,
   0x00025F_801DA2_000261_801DA3_000265_801DA4_000268_801DA5_000269_801DA6_00026A_801DA7,
   0x001D7B_801DA8_00029D_801DA9_00026D_801DAA_001D85_801DAB_00029F_801DAC_000271_801DAD,
   0x000270_801DAE_000272_801DAF_000273_801DB0_000274_801DB1_000275_801DB2_000278_801DB3,
   0x000282_801DB4_000283_801DB5_0001AB_801DB6_000289_801DB7_00028A_801DB8_001D1C_801DB9,
   0x00028B_801DBA_00028C_801DBB_00007A_801DBC_000290_801DBD_000291_801DBE_000292_801DBF,
   0x0003B8_801E00_000041_000325_801E01_000061_000325_801E02_000042_000307_801E03_000062,
   0x000307_801E04_000042_000323_801E05_000062_000323_801E06_000042_000331_801E07_000062,
   0x000331_801E08_000043_000327_000301_801E09_000063_000327_000301_801E0A_000044_000307,
   0x801E0B_000064_000307_801E0C_000044_000323_801E0D_000064_000323_801E0E_000044_000331,
   0x801E0F_000064_000331_801E10_000044_000327_801E11_000064_000327_801E12_000044_00032D,
   0x801E13_000064_00032D_801E14_000045_000304_000300_801E15_000065_000304_000300_801E16,
   0x000045_000304_000301_801E17_000065_000304_000301_801E18_000045_00032D_801E19_000065,
   0x00032D_801E1A_000045_000330_801E1B_000065_000330_801E1C_000045_000327_000306_801E1D,
   0x000065_000327_000306_801E1E_000046_000307_801E1F_000066_000307_801E20_000047_000304,
   0x801E21_000067_000304_801E22_000048_000307_801E23_000068_000307_801E24_000048_000323,
   0x801E25_000068_000323_801E26_000048_000308_801E27_000068_000308_801E28_000048_000327]

def expansionRowsB : List Nat :=
  [0x801E29_000068_000327_801E2A_000048_00032E_801E2B_000068_00032E_801E2C_000049_000330,
   0x801E2D_000069_000330_801E2E_000049_000308_000301_801E2F_000069_000308_000301_801E30,
   0x00004B_000301_801E31_00006B_000301_801E32_00004B_000323_801E33_00006B_000323_801E34,
   0x00004B_000331_801E35_00006B_000331_801E36_00004C_000323_801E37_00006C_000323_801E38,
   0x00004C_000323_000304_801E39_00006C_000323_000304_801E3A_00004C_000331_801E3B_00006C,
   0x000331_801E3C_00004C_00032D_801E3D_00006C_00032D_801E3E_00004D_000301_801E3F_00006D,
   0x000301_801E40_00004D_000307_801E41_00006D_000307_801E42_00004D_000323_801E43_00006D,
   0x000323_801E44_00004E_000307_801E45_00006E_000307_801E46_00004E_000323_801E47_00006E,
   0x000323_801E48_00004E_000331_801E49_00006E_000331_801E4A_00004E_00032D_801E4B_00006E,
   0x00032D_801E4C_00004F_000303_000301_801E4D_00006F_000303_000301_801E4E_00004F_000303,
   0x000308_801E4F_00006F_000303_000308_801E50_00004F_000304_000300_801E51_00006F_000304,
   0x000300_801E52_00004F_000304_000301_801E53_00006F_000304_000301_801E54_000050_000301,
   0x801E55_000070_000301_801E56_000050_000307_801E57_000070_000307_801E58_000052_000307,
   0x801E59_000072_000307_801E5A_000052_000323_801E5B_000072_000323_801E5C_000052_000323,
   0x000304_801E5D_000072_000323_000304_801E5E_000052_000331_801E5F_000072_000331_801E60,
   0x000053_000307_801E61_000073_000307_801E62_000053_000323_801E63_000073_000323_801E64,
   0x000053_000301_000307_801E65_000073_000301_000307_801E66_000053_00030C_000307_801E67,
   0x000073_00030C_000307_801E68_000053_000323_000307_801E69_000073_000323_000307_801E6A,
   0x000054_000307_801E6B_000074_000307_801E6C_000054_000323_801E6D_000074_000323_801E6E,
   0x000054_000331_801E6F_000074_000331_801E70_000054_00032D_801E71_000074_00032D_801E72,
   0x000055_000324_801E73_000075_000324_801E74_000055_000330_801E75_000075_000330_801E76,
   0x000055_00032D_801E77_000075_00032D_801E78_000055_000303_000301_801E79_000075_000303,
   0x000301_801E7A_000055_000304_000308_801E7B_000075_000304_000308_801E7C_000056_000303,
   0x801E7D_000076_000303_801E7E_000056_000323_801E7F_000076_000323_801E80_000057_000300,
   0x801E81_000077_000300_801E82_000057_000301_801E83_000077_000301_801E84_000057_000308,
   0x801E85_000077_000308_801E86_000057_000307_801E87_000077_000307_801E88_000057_000323,
   0x801E89_000077_000323_801E8A_000058_000307_801E8B_000078_000307_801E8C_000058_000308,
   0x801E8D_000078_000308_801E8E_000059_000307_801E8F_000079_000307_801E90_00005A_000302,
   0x801E91_00007A_000302_801E92_00005A_000323_801E93_00007A_000323_801E94_00005A_000331,
   0x801E95_00007A_000331_801E96_000068_000331_801E97_000074_000308_801E98_000077_00030A,
   0x801E99_000079_00030A_801E9A_000061_0002BE_801E9B_000073_000307_801EA0_000041_000323,
   0x801EA1_000061_000323_801EA2_000041_000309_801EA3_000061_000309_801EA4_000041_000302,
   0x000301_801EA5_000061_000302_000301_801EA6_000041_000302_000300_801EA7_000061_000302,
   0x000300_801EA8_000041_000302_000309_801EA9_000061_000302_000309_801EAA_000041_000302,
   0x000303_801EAB_000061_000302_000303_801EAC_000041_000323_000302_801EAD_000061_000323,
   0x000302_801EAE_000041_000306_000301_801EAF_000061_000306_000301_801EB0_000041_000306,
   0x000300_801EB1_000061_000306_000300_801EB2_000041_000306_000309_801EB3_000061_000306,
   0x000309_801EB4_000041_000306_000303_801EB5_000061_000306_000303_801EB6_000041_000323,
   0x000306_801EB7_000061_000323_000306_801EB8_000045_000323_801EB9_000065_000323_801EBA,
   0x000045_000309_801EBB_000065_000309_801EBC_000045_000303_801EBD_000065_000303_801EBE,
   0x000045_000302_000301_801EBF_000065_000302_000301_801EC0_000045_000302_000300_801EC1,
   0x000065_000302_000300_801EC2_000045_000302_000309_801EC3_000065_000302_000309_801EC4,
   0x000045_000302_000303_801EC5_000065_000302_000303_801EC6_000045_000323_000302_801EC7,
   0x000065_000323_000302_801EC8_000049_000309_801EC9_000069_000309_801ECA_000049_000323,
   0x801ECB_000069_000323_801ECC_00004F_000323_801ECD_00006F_000323_801ECE_00004F_000309,
   0x801ECF_00006F_000309_801ED0_00004F_000302_000301_801ED1_00006F_000302_000301_801ED2,
   0x00004F_000302_000300_801ED3_00006F_000302_000300_801ED4_00004F_000302_000309_801ED5,
   0x00006F_000302_000309_801ED6_00004F_000302_000303_801ED7_00006F_000302_000303_801ED8,
   0x00004F_000323_000302_801ED9_00006F_000323_000302_801EDA_00004F_00031B_000301_801EDB,
   0x00006F_00031B_000301_801EDC_00004F_00031B_000300_801EDD_00006F_00031B_000300_801EDE,
   0x00004F_00031B_000309_801EDF_00006F_00031B_000309_801EE0_00004F_00031B_000303_801EE1,
   0x00006F_00031B_000303_801EE2_00004F_00031B_000323_801EE3_00006F_00031B_000323_801EE4,
   0x000055_000323_801EE5_000075_000323_801EE6_000055_000309_801EE7_000075_000309_801EE8,
   0x000055_00031B_000301_801EE9_000075_00031B_000301_801EEA_000055_00031B_000300_801EEB,
   0x000075_00031B_000300_801EEC_000055_00031B_000309_801EED_000075_00031B_000309_801EEE,
   0x000055_00031B_000303_801EEF_000075_00031B_000303_801EF0_000055_00031B_000323_801EF1,
   0x000075_00031B_000323_801EF2_000059_000300_801EF3_000079_000300_801EF4_000059_000323,
   0x801EF5_000079_000323_801EF6_000059_000309_801EF7_000079_000309_801EF8_000059_000303,
   0x801EF9_000079_000303_801F00_0003B1_000313_801F01_0003B1_000314_801F02_0003B1_000313,
   0x000300_801F03_0003B1_000314_000300_801F04_0003B1_000313_000301_801F05_0003B1_000314,
   0x000301_801F06_0003B1_000313_000342_801F07_0003B1_000314_000342_801F08_000391_000313,
   0x801F09_000391_000314_801F0A_000391_000313_000300_801F0B_000391_000314_000300_801F0C,
   0x000391_000313_000301_801F0D_000391_000314_000301_801F0E_000391_000313_000342_801F0F,
   0x000391_000314_000342_801F10_0003B5_000313_801F11_0003B5_000314_801F12_0003B5_000313,
   0x000300_801F13_0003B5_000314_000300_801F14_0003B5_000313_000301_801F15_0003B5_000314,
   0x000301_801F18_000395_000313_801F19_000395_000314_801F1A_000395_000313_000300_801F1B,
   0x000395_000314_000300_801F1C_000395_000313_000301_801F1D_000395_000314_000301_801F20,
   0x0003B7_000313_801F21_0003B7_000314_801F22_0003B7_000313_000300_801F23_0003B7_000314,
   0x000300_801F24_0003B7_000313_000301_801F25_0003B7_000314_000301_801F26_0003B7_000313,
   0x000342_801F27_0003B7_000314_000342_801F28_000397_000313_801F29_000397_000314_801F2A,
   0x000397_000313_000300_801F2B_000397_000314_000300_801F2C_000397_000313_000301_801F2D,
   0x000397_000314_000301_801F2E_000397_000313_000342_801F2F_000397_000314_000342_801F30,
   0x0003B9_000313_801F31_0003B9_000314_801F32_0003B9_000313_000300_801F33_0003B9_000314,
   0x000300_801F34_0003B9_000313_000301_801F35_0003B9_000314_000301_801F36_0003B9_000313,
   0x000342_801F37_0003B9_000314_000342_801F38_000399_000313_801F39_000399_000314_801F3A,
   0x000399_000313_000300_801F3B_000399_000314_000300_801F3C_000399_000313_000301_801F3D,
   0x000399_000314_000301_801F3E_000399_000313_000342_801F3F_000399_000314_000342_801F40,
   0x0003BF_000313_801F41_0003BF_000314_801F42_0003BF_000313_000300_801F43_0003BF_000314,
   0x000300_801F44_0003BF_000313_000301_801F45_0003BF_000314_000301_801F48_00039F_000313,
   0x801F49_00039F_000314_801F4A_00039F_000313_000300_801F4B_00039F_000314_000300_801F4C,
   0x00039F_000313_000301_801F4D_00039F_000314_000301_801F50_0003C5_000313_801F51_0003C5,
   0x000314_801F52_0003C5_000313_000300_801F53_0003C5_000314_000300_801F54_0003C5_000313,
   0x000301_801F55_0003C5_000314_000301_801F56_0003C5_000313_000342_801F57_0003C5_000314,
   0x000342_801F59_0003A5_000314_801F5B_0003A5_000314_000300_801F5D_0003A5_000314_000301,
   0x801F5F_0003A5_000314_000342_801F60_0003C9_000313_801F61_0003C9_000314_801F62_0003C9,
   0x000313_000300_801F63_0003C9_000314_000300_801F64_0003C9_000313_000301_801F65_0003C9,
   0x000314_000301_801F66_0003C9_000313_000342_801F67_0003C9_000314_000342_801F68_0003A9,
   0x000313_801F69_0003A9_000314_801F6A_0003A9_000313_000300_801F6B_0003A9_000314_000300,
   0x801F6C_0003A9_000313_000301_801F6D_0003A9_000314_000301_801F6E_0003A9_000313_000342,
   0x801F6F_0003A9_000314_000342_801F70_0003B1_000300_801F71_0003B1_000301_801F72_0003B5,
   0x000300_801F73_0003B5_000301_801F74_0003B7_000300_801F75_0003B7_000301_801F76_0003B9,
   0x000300_801F77_0003B9_000301_801F78_0003BF_000300_801F79_0003BF_000301_801F7A_0003C5,
   0x000300_801F7B_0003C5_000301_801F7C_0003C9_000300_801F7D_0003C9_000301_801F80_0003B1,
   0x000313_000345_801F81_0003B1_000314_000345_801F82_0003B1_000313_000300_000345_801F83,
   0x0003B1_000314_000300_000345_801F84_0003B1_000313_000301_000345_801F85_0003B1_000314,
   0x000301_000345_801F86_0003B1_000313_000342_000345_801F87_0003B1_000314_000342_000345,
   0x801F88_000391_000313_000345_801F89_000391_000314_000345_801F8A_000391_000313_000300,
   0x000345_801F8B_000391_000314_000300_000345_801F8C_000391_000313_000301_000345_801F8D,
   0x000391_000314_000301_000345_801F8E_000391_000313_000342_000345_801F8F_000391_000314,
   0x000342_000345_801F90_0003B7_000313_000345_801F91_0003B7_000314_000345_801F92_0003B7,
   0x000313_000300_000345_801F93_0003B7_000314_000300_000345_801F94_0003B7_000313_000301,
   0x000345_801F95_0003B7_000314_000301_000345_801F96_0003B7_000313_000342_000345_801F97,
   0x0003B7_000314_000342_000345_801F98_000397_000313_000345_801F99_000397_000314_000345,
   0x801F9A_000397_000313_000300_000345_801F9B_000397_000314_000300_000345_801F9C_000397,
   0x000313_000301_000345_801F9D_000397_000314_000301_000345_801F9E_000397_000313_000342,
   0x000345_801F9F_000397_000314_000342_000345_801FA0_0003C9_000313_000345_801FA1_0003C9,
   0x000314_000345_801FA2_0003C9_000313_000300_000345_801FA3_0003C9_000314_000300_000345,
   0x801FA4_0003C9_000313_000301_000345_801FA5_0003C9_000314_000301_000345_801FA6_0003C9,
   0x000313_000342_000345_801FA7_0003C9_000314_000342_000345_801FA8_0003A9_000313_000345,
   0x801FA9_0003A9_000314_000345_801FAA_0003A9_000313_000300_000345_801FAB_0003A9_000314,
   0x000300_000345_801FAC_0003A9_000313_000301_000345_801FAD_0003A9_000314_000301_000345,
   0x801FAE_0003A9_000313_000342_000345_801FAF_0003A9_000314_000342_000345_801FB0_0003B1,
   0x000306_801FB1_0003B1_000304_801FB2_0003B1_000300_000345_801FB3_0003B1_000345_801FB4,
   0x0003B1_000301_000345_801FB6_0003B1_000342_801FB7_0003B1_000342_000345_801FB8_000391,
   0x000306_801FB9_000391_000304_801FBA_000391_000300_801FBB_000391_000301_801FBC_000391,
   0x000345_801FBD_000020_000313_801FBE_0003B9_801FBF_000020_000313_801FC0_000020_000342,
   0x801FC1_000020_000308_000342_801FC2_0003B7_000300_000345_801FC3_0003B7_000345_801FC4,
   0x0003B7_000301_000345_801FC6_0003B7_000342_801FC7_0003B7_000342_000345_801FC8_000395,
   0x000300_801FC9_000395_000301_801FCA_000397_000300_801FCB_000397_000301_801FCC_000397,
   0x000345_801FCD_000020_000313_000300_801FCE_000020_000313_000301_801FCF_000020_000313,
   0x000342_801FD0_0003B9_000306_801FD1_0003B9_000304_801FD2_0003B9_000308_000300_801FD3,
   0x0003B9_000308_000301_801FD6_0003B9_000342_801FD7_0003B9_000308_000342_801FD8_000399,
   0x000306_801FD9_000399_000304_801FDA_000399_000300_801FDB_000399_000301_801FDD_000020,
   0x000314_000300_801FDE_000020_000314_000301_801FDF_000020_000314_000342_801FE0_0003C5,
   0x000306_801FE1_0003C5_000304_801FE2_0003C5_000308_000300_801FE3_0003C5_000308_000301,
   0x801FE4_0003C1_000313_801FE5_0003C1_000314_801FE6_0003C5_000342_801FE7_0003C5_000308,
   0x000342_801FE8_0003A5_000306_801FE9_0003A5_000304_801FEA_0003A5_000300_801FEB_0003A5,
   0x000301_801FEC_0003A1_000314_801FED_000020_000308_000300_801FEE_000020_000308_000301,
   0x801FEF_000060_801FF2_0003C9_000300_000345_801FF3_0003C9_000345_801FF4_0003C9_000301,
   0x000345_801FF6_0003C9_000342_801FF7_0003C9_000342_000345_801FF8_00039F_000300_801FF9,
   0x00039F_000301_801FFA_0003A9_000300_801FFB_0003A9_000301_801FFC_0003A9_000345_801FFD,
   0x000020_000301_801FFE_000020_000314_802000_000020_802001_000020_802002_000020_802003,
   0x000020_802004_000020_802005_000020_802006_000020_802007_000020_802008_000020_802009,
   0x000020_80200A_000020_802011_002010_802017_000020_000333_802024_00002E_802025_00002E,
   0x00002E_802026_00002E_00002E_00002E_80202F_000020_802033_002032_002032_802034_002032,
   0x002032_002032_802036_002035_002035_802037_002035_002035_002035_80203C_000021_000021,
   0x80203E_000020_000305_802047_00003F_00003F_802048_00003F_000021_802049_000021_00003F,
   0x802057_002032_002032_002032_002032_80205F_000020_802070_000030_802071_000069_802074,
   0x000034_802075_000035_802076_000036_802077_000037_802078_000038_802079_000039_80207A,
   0x00002B_80207B_002212_80207C_00003D_80207D_000028_80207E_000029_80207F_00006E_802080,
   0x000030_802081_000031_802082_000032_802083_000033_802084_000034_802085_000035_802086,
   0x000036_802087_000037_802088_000038_802089_000039_80208A_00002B_80208B_002212_80208C,
   0x00003D_80208D_000028_80208E_000029_802090_000061_802091_000065_802092_00006F_802093,
   0x000078_802094_000259_802095_000068_802096_00006B_802097_00006C_802098_00006D_802099,
   0x00006E_80209A_000070_80209B_000073_80209C_000074_8020A8_000052_000073_802100_000061,
   0x00002F_000063_802101_000061_00002F_000073_802102_000043_802103_0000B0_000043_802105,
   0x000063_00002F_00006F_802106_000063_00002F_000075_802107_000190_802109_0000B0_000046,
   0x80210A_000067_80210B_000048_80210C_000048_80210D_000048_80210E_000068_80210F_000127,
   0x802110_000049_802111_000049_802112_00004C_802113_00006C_802115_00004E_802116_00004E,
   0x00006F_802119_000050_80211A_000051_80211B_000052_80211C_000052_80211D_000052_802120]

def expansionRowsC : List Nat :=
  [0x000053_00004D_802121_000054_000045_00004C_802122_000054_00004D_802124_00005A_802126,
   0x0003A9_802128_00005A_80212A_00004B_80212B_000041_00030A_80212C_000042_80212D_000043,
   0x80212F_000065_802130_000045_802131_000046_802133_00004D_802134_00006F_802135_0005D0,
   0x802136_0005D1_802137_0005D2_802138_0005D3_802139_000069_80213B_000046_000041_000058,
   0x80213C_0003C0_80213D_0003B3_80213E_000393_80213F_0003A0_802140_002211_802145_000044,
   0x802146_000064_802147_000065_802148_000069_802149_00006A_802150_000031_002044_000037,
   0x802151_000031_002044_000039_802152_000031_002044_000031_000030_802153_000031_002044,
   0x000033_802154_000032_002044_000033_802155_000031_002044_000035_802156_000032_002044,
   0x000035_802157_000033_002044_000035_802158_000034_002044_000035_802159_000031_002044,
   0x000036_80215A_000035_002044_000036_80215B_000031_002044_000038_80215C_000033_002044,
   0x000038_80215D_000035_002044_000038_80215E_000037_002044_000038_80215F_000031_002044,
   0x802160_000049_802161_000049_000049_802162_000049_000049_000049_802163_000049_000056,
   0x802164_000056_802165_000056_000049_802166_000056_000049_000049_802167_000056_000049,
   0x000049_000049_802168_000049_000058_802169_000058_80216A_000058_000049_80216B_000058,
   0x000049_000049_80216C_00004C_80216D_000043_80216E_000044_80216F_00004D_802170_000069,
   0x802171_000069_000069_802172_000069_000069_000069_802173_000069_000076_802174_000076,
   0x802175_000076_000069_802176_000076_000069_000069_802177_000076_000069_000069_000069,
   0x802178_000069_000078_802179_000078_80217A_000078_000069_80217B_000078_000069_000069,
   0x80217C_00006C_80217D_000063_80217E_000064_80217F_00006D_802189_000030_002044_000033,
   0x80219A_002190_000338_80219B_002192_000338_8021AE_002194_000338_8021CD_0021D0_000338,
   0x8021CE_0021D4_000338_8021CF_0021D2_000338_802204_002203_000338_802209_002208_000338,
   0x80220C_00220B_000338_802224_002223_000338_802226_002225_000338_80222C_00222B_00222B,
   0x80222D_00222B_00222B_00222B_80222F_00222E_00222E_802230_00222E_00222E_00222E_802241,
   0x00223C_000338_802244_002243_000338_802247_002245_000338_802249_002248_000338_802260,
   0x00003D_000338_802262_002261_000338_80226D_00224D_000338_80226E_00003C_000338_80226F,
   0x00003E_000338_802270_002264_000338_802271_002265_000338_802274_002272_000338_802275,
   0x002273_000338_802278_002276_000338_802279_002277_000338_802280_00227A_000338_802281,
   0x00227B_000338_802284_002282_000338_802285_002283_000338_802288_002286_000338_802289,
   0x002287_000338_8022AC_0022A2_000338_8022AD_0022A8_000338_8022AE_0022A9_000338_8022AF,
   0x0022AB_000338_8022E0_00227C_000338_8022E1_00227D_000338_8022E2_002291_000338_8022E3,
   0x002292_000338_8022EA_0022B2_000338_8022EB_0022B3_000338_8022EC_0022B4_000338_8022ED,
   0x0022B5_000338_802329_003008_80232A_003009_802460_000031_802461_000032_802462_000033,
   0x802463_000034_802464_000035_802465_000036_802466_000037_802467_000038_802468_000039,
   0x802469_000031_000030_80246A_000031_000031_80246B_000031_000032_80246C_000031_000033,
   0x80246D_000031_000034_80246E_000031_000035_80246F_000031_000036_802470_000031_000037,
   0x802471_000031_000038_802472_000031_000039_802473_000032_000030_802474_000028_000031,
   0x000029_802475_000028_000032_000029_802476_000028_000033_000029_802477_000028_000034,
   0x000029_802478_000028_000035_000029_802479_000028_000036_000029_80247A_000028_000037,
   0x000029_80247B_000028_000038_000029_80247C_000028_000039_000029_80247D_000028_000031,
   0x000030_000029_80247E_000028_000031_000031_000029_80247F_000028_000031_000032_000029,
   0x802480_000028_000031_000033_000029_802481_000028_000031_000034_000029_802482_000028,
   0x000031_000035_000029_802483_000028_000031_000036_000029_802484_000028_000031_000037,
   0x000029_802485_000028_000031_000038_000029_802486_000028_000031_000039_000029_802487,
   0x000028_000032_000030_000029_802488_000031_00002E_802489_000032_00002E_80248A_000033,
   0x00002E_80248B_000034_00002E_80248C_000035_00002E_80248D_000036_00002E_80248E_000037,
   0x00002E_80248F_000038_00002E_802490_000039_00002E_802491_000031_000030_00002E_802492,
   0x000031_000031_00002E_802493_000031_000032_00002E_802494_000031_000033_00002E_802495,
   0x000031_000034_00002E_802496_000031_000035_00002E_802497_000031_000036_00002E_802498,
   0x000031_000037_00002E_802499_000031_000038_00002E_80249A_000031_000039_00002E_80249B,
   0x000032_000030_00002E_80249C_000028_000061_000029_80249D_000028_000062_000029_80249E,
   0x000028_000063_000029_80249F_000028_000064_000029_8024A0_000028_000065_000029_8024A1,
   0x000028_000066_000029_8024A2_000028_000067_000029_8024A3_000028_000068_000029_8024A4,
   0x000028_000069_000029_8024A5_000028_00006A_000029_8024A6_000028_00006B_000029_8024A7,
   0x000028_00006C_000029_8024A8_000028_00006D_000029_8024A9_000028_00006E_000029_8024AA,
   0x000028_00006F_000029_8024AB_000028_000070_000029_8024AC_000028_000071_000029_8024AD,
   0x000028_000072_000029_8024AE_000028_000073_000029_8024AF_000028_000074_000029_8024B0,
   0x000028_000075_000029_8024B1_000028_000076_000029_8024B2_000028_000077_000029_8024B3,
   0x000028_000078_000029_8024B4_000028_000079_000029_8024B5_000028_00007A_000029_8024B6,
   0x000041_8024B7_000042_8024B8_000043_8024B9_000044_8024BA_000045_8024BB_000046_8024BC,
   0x000047_8024BD_000048_8024BE_000049_8024BF_00004A_8024C0_00004B_8024C1_00004C_8024C2,
   0x00004D_8024C3_00004E_8024C4_00004F_8024C5_000050_8024C6_000051_8024C7_000052_8024C8,
   0x000053_8024C9_000054_8024CA_000055_8024CB_000056_8024CC_000057_8024CD_000058_8024CE,
   0x000059_8024CF_00005A_8024D0_000061_8024D1_000062_8024D2_000063_8024D3_000064_8024D4,
   0x000065_8024D5_000066_8024D6_000067_8024D7_000068_8024D8_000069_8024D9_00006A_8024DA,
   0x00006B_8024DB_00006C_8024DC_00006D_8024DD_00006E_8024DE_00006F_8024DF_000070_8024E0,
   0x000071_8024E1_000072_8024E2_000073_8024E3_000074_8024E4_000075_8024E5_000076_8024E6,
   0x000077_8024E7_000078_8024E8_000079_8024E9_00007A_8024EA_000030_802A0C_00222B_00222B,
   0x00222B_00222B_802A74_00003A_00003A_00003D_802A75_00003D_00003D_802A76_00003D_00003D,
   0x00003D_802ADC_002ADD_000338_802C7C_00006A_802C7D_000056_802D6F_002D61_802E9F_006BCD,
   0x802EF3_009F9F_802F00_004E00_802F01_004E28_802F02_004E36_802F03_004E3F_802F04_004E59,
   0x802F05_004E85_802F06_004E8C_802F07_004EA0_802F08_004EBA_802F09_00513F_802F0A_005165,
   0x802F0B_00516B_802F0C_005182_802F0D_005196_802F0E_0051AB_802F0F_0051E0_802F10_0051F5,
   0x802F11_005200_802F12_00529B_802F13_0052F9_802F14_005315_802F15_00531A_802F16_005338,
   0x802F17_005341_802F18_00535C_802F19_005369_802F1A_005382_802F1B_0053B6_802F1C_0053C8,
   0x802F1D_0053E3_802F1E_0056D7_802F1F_00571F_802F20_0058EB_802F21_005902_802F22_00590A,
   0x802F23_005915_802F24_005927_802F25_005973_802F26_005B50_802F27_005B80_802F28_005BF8,
   0x802F29_005C0F_802F2A_005C22_802F2B_005C38_802F2C_005C6E_802F2D_005C71_802F2E_005DDB,
   0x802F2F_005DE5_802F30_005DF1_802F31_005DFE_802F32_005E72_802F33_005E7A_802F34_005E7F,
   0x802F35_005EF4_802F36_005EFE_802F37_005F0B_802F38_005F13_802F39_005F50_802F3A_005F61,
   0x802F3B_005F73_802F3C_005FC3_802F3D_006208_802F3E_006236_802F3F_00624B_802F40_00652F,
   0x802F41_006534_802F42_006587_802F43_006597_802F44_0065A4_802F45_0065B9_802F46_0065E0,
   0x802F47_0065E5_802F48_0066F0_802F49_006708_802F4A_006728_802F4B_006B20_802F4C_006B62,
   0x802F4D_006B79_802F4E_006BB3_802F4F_006BCB_802F50_006BD4_802F51_006BDB_802F52_006C0F,
   0x802F53_006C14_802F54_006C34_802F55_00706B_802F56_00722A_802F57_007236_802F58_00723B,
   0x802F59_00723F_802F5A_007247_802F5B_007259_802F5C_00725B_802F5D_0072AC_802F5E_007384,
   0x802F5F_007389_802F60_0074DC_802F61_0074E6_802F62_007518_802F63_00751F_802F64_007528,
   0x802F65_007530_802F66_00758B_802F67_007592_802F68_007676_802F69_00767D_802F6A_0076AE,
   0x802F6B_0076BF_802F6C_0076EE_802F6D_0077DB_802F6E_0077E2_802F6F_0077F3_802F70_00793A,
   0x802F71_0079B8_802F72_0079BE_802F73_007A74_802F74_007ACB_802F75_007AF9_802F76_007C73,
   0x802F77_007CF8_802F78_007F36_802F79_007F51_802F7A_007F8A_802F7B_007FBD_802F7C_008001,
   0x802F7D_00800C_802F7E_008012_802F7F_008033_802F80_00807F_802F81_008089_802F82_0081E3,
   0x802F83_0081EA_802F84_0081F3_802F85_0081FC_802F86_00820C_802F87_00821B_802F88_00821F,
   0x802F89_00826E_802F8A_008272_802F8B_008278_802F8C_00864D_802F8D_00866B_802F8E_008840,
   0x802F8F_00884C_802F90_008863_802F91_00897E_802F92_00898B_802F93_0089D2_802F94_008A00,
   0x802F95_008C37_802F96_008C46_802F97_008C55_802F98_008C78_802F99_008C9D_802F9A_008D64,
   0x802F9B_008D70_802F9C_008DB3_802F9D_008EAB_802F9E_008ECA_802F9F_008F9B_802FA0_008FB0,
   0x802FA1_008FB5_802FA2_009091_802FA3_009149_802FA4_0091C6_802FA5_0091CC_802FA6_0091D1,
   0x802FA7_009577_802FA8_009580_802FA9_00961C_802FAA_0096B6_802FAB_0096B9_802FAC_0096E8,
   0x802FAD_009751_802FAE_00975E_802FAF_009762_802FB0_009769_802FB1_0097CB_802FB2_0097ED,
   0x802FB3_0097F3_802FB4_009801_802FB5_0098A8_802FB6_0098DB_802FB7_0098DF_802FB8_009996,
   0x802FB9_009999_802FBA_0099AC_802FBB_009AA8_802FBC_009AD8_802FBD_009ADF_802FBE_009B25,
   0x802FBF_009B2F_802FC0_009B32_802FC1_009B3C_802FC2_009B5A_802FC3_009CE5_802FC4_009E75,
   0x802FC5_009E7F_802FC6_009EA5_802FC7_009EBB_802FC8_009EC3_802FC9_009ECD_802FCA_009ED1,
   0x802FCB_009EF9_802FCC_009EFD_802FCD_009F0E_802FCE_009F13_802FCF_009F20_802FD0_009F3B,
   0x802FD1_009F4A_802FD2_009F52_802FD3_009F8D_802FD4_009F9C_802FD5_009FA0_803000_000020,
   0x803036_003012_803038_005341_803039_005344_80303A_005345_80304C_00304B_003099_80304E,
   0x00304D_003099_803050_00304F_003099_803052_003051_003099_803054_003053_003099_803056,
   0x003055_003099_803058_003057_003099_80305A_003059_003099_80305C_00305B_003099_80305E,
   0x00305D_003099_803060_00305F_003099_803062_003061_003099_803065_003064_003099_803067,
   0x003066_003099_803069_003068_003099_803070_00306F_003099_803071_00306F_00309A_803073,
   0x003072_003099_803074_003072_00309A_803076_003075_003099_803077_003075_00309A_803079,
   0x003078_003099_80307A_003078_00309A_80307C_00307B_003099_80307D_00307B_00309A_803094,
   0x003046_003099_80309B_000020_003099_80309C_000020_00309A_80309E_00309D_003099_80309F,
   0x003088_00308A_8030AC_0030AB_003099_8030AE_0030AD_003099_8030B0_0030AF_003099_8030B2,
   0x0030B1_003099_8030B4_0030B3_003099_8030B6_0030B5_003099_8030B8_0030B7_003099_8030BA,
   0x0030B9_003099_8030BC_0030BB_003099_8030BE_0030BD_003099_8030C0_0030BF_003099_8030C2,
   0x0030C1_003099_8030C5_0030C4_003099_8030C7_0030C6_003099_8030C9_0030C8_003099_8030D0,
   0x0030CF_003099_8030D1_0030CF_00309A_8030D3_0030D2_003099_8030D4_0030D2_00309A_8030D6,
   0x0030D5_003099_8030D7_0030D5_00309A_8030D9_0030D8_003099_8030DA_0030D8_00309A_8030DC,
   0x0030DB_003099_8030DD_0030DB_00309A_8030F4_0030A6_003099_8030F7_0030EF_003099_8030F8,
   0x0030F0_003099_8030F9_0030F1_003099_8030FA_0030F2_003099_8030FE_0030FD_003099_8030FF,
   0x0030B3_0030C8_803131_001100_803132_001101_803133_0011AA_803134_001102_803135_0011AC,
   0x803136_0011AD_803137_001103_803138_001104_803139_001105_80313A_0011B0_80313B_0011B1,
   0x80313C_0011B2_80313D_0011B3_80313E_0011B4_80313F_0011B5_803140_00111A_803141_001106,
   0x803142_001107_803143_001108_803144_001121_803145_001109_803146_00110A_803147_00110B,
   0x803148_00110C_803149_00110D_80314A_00110E_80314B_00110F_80314C_001110_80314D_001111,
   0x80314E_001112_80314F_001161_803150_001162_803151_001163_803152_001164_803153_001165,
   0x803154_001166_803155_001167_803156_001168_803157_001169_803158_00116A_803159_00116B,
   0x80315A_00116C_80315B_00116D_80315C_00116E_80315D_00116F_80315E_001170_80315F_001171,
   0x803160_001172_803161_001173_803162_001174_803163_001175_803164_001160_803165_001114,
   0x803166_001115_803167_0011C7_803168_0011C8_803169_0011CC_80316A_0011CE_80316B_0011D3,
   0x80316C_0011D7_80316D_0011D9_80316E_00111C_80316F_0011DD_803170_0011DF_803171_00111D,
   0x803172_00111E_803173_001120_803174_001122_803175_001123_803176_001127_803177_001129,
   0x803178_00112B_803179_00112C_80317A_00112D_80317B_00112E_80317C_00112F_80317D_001132,
   0x80317E_001136_80317F_001140_803180_001147_803181_00114C_803182_0011F1_803183_0011F2,
   0x803184_001157_803185_001158_803186_001159_803187_001184_803188_001185_803189_001188,
   0x80318A_001191_80318B_001192_80318C_001194_80318D_00119E_80318E_0011A1_803192_004E00,
   0x803193_004E8C_803194_004E09_803195_0056DB_803196_004E0A_803197_004E2D_803198_004E0B,
   0x803199_007532_80319A_004E59_80319B_004E19_80319C_004E01_80319D_005929_80319E_005730,
   0x80319F_004EBA_803200_000028_001100_000029_803201_000028_001102_000029_803202_000028,
   0x001103_000029_803203_000028_001105_000029_803204_000028_001106_000029_803205_000028,
   0x001107_000029_803206_000028_001109_000029_803207_000028_00110B_000029_803208_000028,
   0x00110C_000029_803209_000028_00110E_000029_80320A_000028_00110F_000029_80320B_000028,
   0x001110_000029_80320C_000028_001111_000029_80320D_000028_001112_000029_80320E_000028,
   0x001100_001161_000029_80320F_000028_001102_001161_000029_803210_000028_001103_001161,
   0x000029_803211_000028_001105_001161_000029_803212_000028_001106_001161_000029_803213,
   0x000028_001107_001161_000029_803214_000028_001109_001161_000029_803215_000028_00110B,
   0x001161_000029_803216_000028_00110C_001161_000029_803217_000028_00110E_001161_000029,
   0x803218_000028_00110F_001161_000029_803219_000028_001110_001161_000029_80321A_000028,
   0x001111_001161_000029_80321B_000028_001112_001161_000029_80321C_000028_00110C_00116E]

def expansionRowsD : List Nat :=
  [0x000029_80321D_000028_00110B_001169_00110C_001165_0011AB_000029_80321E_000028_00110B,
   0x001169_001112_00116E_000029_803220_000028_004E00_000029_803221_000028_004E8C_000029,
   0x803222_000028_004E09_000029_803223_000028_0056DB_000029_803224_000028_004E94_000029,
   0x803225_000028_00516D_000029_803226_000028_004E03_000029_803227_000028_00516B_000029,
   0x803228_000028_004E5D_000029_803229_000028_005341_000029_80322A_000028_006708_000029,
   0x80322B_000028_00706B_000029_80322C_000028_006C34_000029_80322D_000028_006728_000029,
   0x80322E_000028_0091D1_000029_80322F_000028_00571F_000029_803230_000028_0065E5_000029,
   0x803231_000028_00682A_000029_803232_000028_006709_000029_803233_000028_00793E_000029,
   0x803234_000028_00540D_000029_803235_000028_007279_000029_803236_000028_008CA1_000029,
   0x803237_000028_00795D_000029_803238_000028_0052B4_000029_803239_000028_004EE3_000029,
   0x80323A_000028_00547C_000029_80323B_000028_005B66_000029_80323C_000028_0076E3_000029,
   0x80323D_000028_004F01_000029_80323E_000028_008CC7_000029_80323F_000028_005354_000029,
   0x803240_000028_00796D_000029_803241_000028_004F11_000029_803242_000028_0081EA_000029,
   0x803243_000028_0081F3_000029_803244_00554F_803245_005E7C_803246_006587_803247_007B8F,
   0x803250_000050_000054_000045_803251_000032_000031_803252_000032_000032_803253_000032,
   0x000033_803254_000032_000034_803255_000032_000035_803256_000032_000036_803257_000032,
   0x000037_803258_000032_000038_803259_000032_000039_80325A_000033_000030_80325B_000033,
   0x000031_80325C_000033_000032_80325D_000033_000033_80325E_000033_000034_80325F_000033,
   0x000035_803260_001100_803261_001102_803262_001103_803263_001105_803264_001106_803265,
   0x001107_803266_001109_803267_00110B_803268_00110C_803269_00110E_80326A_00110F_80326B,
   0x001110_80326C_001111_80326D_001112_80326E_001100_001161_80326F_001102_001161_803270,
   0x001103_001161_803271_001105_001161_803272_001106_001161_803273_001107_001161_803274,
   0x001109_001161_803275_00110B_001161_803276_00110C_001161_803277_00110E_001161_803278,
   0x00110F_001161_803279_001110_001161_80327A_001111_001161_80327B_001112_001161_80327C,
   0x00110E_001161_0011B7_001100_001169_80327D_00110C_00116E_00110B_001174_80327E_00110B,
   0x00116E_803280_004E00_803281_004E8C_803282_004E09_803283_0056DB_803284_004E94_803285,
   0x00516D_803286_004E03_803287_00516B_803288_004E5D_803289_005341_80328A_006708_80328B,
   0x00706B_80328C_006C34_80328D_006728_80328E_0091D1_80328F_00571F_803290_0065E5_803291,
   0x00682A_803292_006709_803293_00793E_803294_00540D_803295_007279_803296_008CA1_803297,
   0x00795D_803298_0052B4_803299_0079D8_80329A_007537_80329B_005973_80329C_009069_80329D,
   0x00512A_80329E_005370_80329F_006CE8_8032A0_009805_8032A1_004F11_8032A2_005199_8032A3,
   0x006B63_8032A4_004E0A_8032A5_004E2D_8032A6_004E0B_8032A7_005DE6_8032A8_0053F3_8032A9,
   0x00533B_8032AA_005B97_8032AB_005B66_8032AC_0076E3_8032AD_004F01_8032AE_008CC7_8032AF,
   0x005354_8032B0_00591C_8032B1_000033_000036_8032B2_000033_000037_8032B3_000033_000038,
   0x8032B4_000033_000039_8032B5_000034_000030_8032B6_000034_000031_8032B7_000034_000032,
   0x8032B8_000034_000033_8032B9_000034_000034_8032BA_000034_000035_8032BB_000034_000036,
   0x8032BC_000034_000037_8032BD_000034_000038_8032BE_000034_000039_8032BF_000035_000030,
   0x8032C0_000031_006708_8032C1_000032_006708_8032C2_000033_006708_8032C3_000034_006708,
   0x8032C4_000035_006708_8032C5_000036_006708_8032C6_000037_006708_8032C7_000038_006708,
   0x8032C8_000039_006708_8032C9_000031_000030_006708_8032CA_000031_000031_006708_8032CB,
   0x000031_000032_006708_8032CC_000048_000067_8032CD_000065_000072_000067_8032CE_000065,
   0x000056_8032CF_00004C_000054_000044_8032D0_0030A2_8032D1_0030A4_8032D2_0030A6_8032D3,
   0x0030A8_8032D4_0030AA_8032D5_0030AB_8032D6_0030AD_8032D7_0030AF_8032D8_0030B1_8032D9,
   0x0030B3_8032DA_0030B5_8032DB_0030B7_8032DC_0030B9_8032DD_0030BB_8032DE_0030BD_8032DF,
   0x0030BF_8032E0_0030C1_8032E1_0030C4_8032E2_0030C6_8032E3_0030C8_8032E4_0030CA_8032E5,
   0x0030CB_8032E6_0030CC_8032E7_0030CD_8032E8_0030CE_8032E9_0030CF_8032EA_0030D2_8032EB,
   0x0030D5_8032EC_0030D8_8032ED_0030DB_8032EE_0030DE_8032EF_0030DF_8032F0_0030E0_8032F1,
   0x0030E1_8032F2_0030E2_8032F3_0030E4_8032F4_0030E6_8032F5_0030E8_8032F6_0030E9_8032F7,
   0x0030EA_8032F8_0030EB_8032F9_0030EC_8032FA_0030ED_8032FB_0030EF_8032FC_0030F0_8032FD,
   0x0030F1_8032FE_0030F2_8032FF_004EE4_00548C_803300_0030A2_0030CF_00309A_0030FC_0030C8,
   0x803301_0030A2_0030EB_0030D5_0030A1_803302_0030A2_0030F3_0030D8_00309A_0030A2_803303,
   0x0030A2_0030FC_0030EB_803304_0030A4_0030CB_0030F3_0030AF_003099_803305_0030A4_0030F3,
   0x0030C1_803306_0030A6_0030A9_0030F3_803307_0030A8_0030B9_0030AF_0030FC_0030C8_003099,
   0x803308_0030A8_0030FC_0030AB_0030FC_803309_0030AA_0030F3_0030B9_80330A_0030AA_0030FC,
   0x0030E0_80330B_0030AB_0030A4_0030EA_80330C_0030AB_0030E9_0030C3_0030C8_80330D_0030AB,
   0x0030ED_0030EA_0030FC_80330E_0030AB_003099_0030ED_0030F3_80330F_0030AB_003099_0030F3,
   0x0030DE_803310_0030AD_003099_0030AB_003099_803311_0030AD_003099_0030CB_0030FC_803312,
   0x0030AD_0030E5_0030EA_0030FC_803313_0030AD_003099_0030EB_0030BF_003099_0030FC_803314,
   0x0030AD_0030ED_803315_0030AD_0030ED_0030AF_003099_0030E9_0030E0_803316_0030AD_0030ED,
   0x0030E1_0030FC_0030C8_0030EB_803317_0030AD_0030ED_0030EF_0030C3_0030C8_803318_0030AF,
   0x003099_0030E9_0030E0_803319_0030AF_003099_0030E9_0030E0_0030C8_0030F3_80331A_0030AF,
   0x0030EB_0030BB_003099_0030A4_0030ED_80331B_0030AF_0030ED_0030FC_0030CD_80331C_0030B1,
   0x0030FC_0030B9_80331D_0030B3_0030EB_0030CA_80331E_0030B3_0030FC_0030DB_00309A_80331F,
   0x0030B5_0030A4_0030AF_0030EB_803320_0030B5_0030F3_0030C1_0030FC_0030E0_803321_0030B7,
   0x0030EA_0030F3_0030AF_003099_803322_0030BB_0030F3_0030C1_803323_0030BB_0030F3_0030C8,
   0x803324_0030BF_003099_0030FC_0030B9_803325_0030C6_003099_0030B7_803326_0030C8_003099,
   0x0030EB_803327_0030C8_0030F3_803328_0030CA_0030CE_803329_0030CE_0030C3_0030C8_80332A,
   0x0030CF_0030A4_0030C4_80332B_0030CF_00309A_0030FC_0030BB_0030F3_0030C8_80332C_0030CF,
   0x00309A_0030FC_0030C4_80332D_0030CF_003099_0030FC_0030EC_0030EB_80332E_0030D2_00309A,
   0x0030A2_0030B9_0030C8_0030EB_80332F_0030D2_00309A_0030AF_0030EB_803330_0030D2_00309A,
   0x0030B3_803331_0030D2_003099_0030EB_803332_0030D5_0030A1_0030E9_0030C3_0030C8_003099,
   0x803333_0030D5_0030A3_0030FC_0030C8_803334_0030D5_003099_0030C3_0030B7_0030A7_0030EB,
   0x803335_0030D5_0030E9_0030F3_803336_0030D8_0030AF_0030BF_0030FC_0030EB_803337_0030D8,
   0x00309A_0030BD_803338_0030D8_00309A_0030CB_0030D2_803339_0030D8_0030EB_0030C4_80333A,
   0x0030D8_00309A_0030F3_0030B9_80333B_0030D8_00309A_0030FC_0030B7_003099_80333C_0030D8,
   0x003099_0030FC_0030BF_80333D_0030DB_00309A_0030A4_0030F3_0030C8_80333E_0030DB_003099,
   0x0030EB_0030C8_80333F_0030DB_0030F3_803340_0030DB_00309A_0030F3_0030C8_003099_803341,
   0x0030DB_0030FC_0030EB_803342_0030DB_0030FC_0030F3_803343_0030DE_0030A4_0030AF_0030ED,
   0x803344_0030DE_0030A4_0030EB_803345_0030DE_0030C3_0030CF_803346_0030DE_0030EB_0030AF,
   0x803347_0030DE_0030F3_0030B7_0030E7_0030F3_803348_0030DF_0030AF_0030ED_0030F3_803349,
   0x0030DF_0030EA_80334A_0030DF_0030EA_0030CF_003099_0030FC_0030EB_80334B_0030E1_0030AB,
   0x003099_80334C_0030E1_0030AB_003099_0030C8_0030F3_80334D_0030E1_0030FC_0030C8_0030EB,
   0x80334E_0030E4_0030FC_0030C8_003099_80334F_0030E4_0030FC_0030EB_803350_0030E6_0030A2,
   0x0030F3_803351_0030EA_0030C3_0030C8_0030EB_803352_0030EA_0030E9_803353_0030EB_0030D2,
   0x00309A_0030FC_803354_0030EB_0030FC_0030D5_003099_0030EB_803355_0030EC_0030E0_803356,
   0x0030EC_0030F3_0030C8_0030B1_003099_0030F3_803357_0030EF_0030C3_0030C8_803358_000030,
   0x0070B9_803359_000031_0070B9_80335A_000032_0070B9_80335B_000033_0070B9_80335C_000034,
   0x0070B9_80335D_000035_0070B9_80335E_000036_0070B9_80335F_000037_0070B9_803360_000038,
   0x0070B9_803361_000039_0070B9_803362_000031_000030_0070B9_803363_000031_000031_0070B9,
   0x803364_000031_000032_0070B9_803365_000031_000033_0070B9_803366_000031_000034_0070B9,
   0x803367_000031_000035_0070B9_803368_000031_000036_0070B9_803369_000031_000037_0070B9,
   0x80336A_000031_000038_0070B9_80336B_000031_000039_0070B9_80336C_000032_000030_0070B9,
   0x80336D_000032_000031_0070B9_80336E_000032_000032_0070B9_80336F_000032_000033_0070B9,
   0x803370_000032_000034_0070B9_803371_000068_000050_000061_803372_000064_000061_803373,
   0x000041_000055_803374_000062_000061_000072_803375_00006F_000056_803376_000070_000063,
   0x803377_000064_00006D_803378_000064_00006D_000032_803379_000064_00006D_000033_80337A,
   0x000049_000055_80337B_005E73_006210_80337C_00662D_00548C_80337D_005927_006B63_80337E,
   0x00660E_006CBB_80337F_00682A_005F0F_004F1A_00793E_803380_000070_000041_803381_00006E,
   0x000041_803382_0003BC_000041_803383_00006D_000041_803384_00006B_000041_803385_00004B,
   0x000042_803386_00004D_000042_803387_000047_000042_803388_000063_000061_00006C_803389,
   0x00006B_000063_000061_00006C_80338A_000070_000046_80338B_00006E_000046_80338C_0003BC,
   0x000046_80338D_0003BC_000067_80338E_00006D_000067_80338F_00006B_000067_803390_000048,
   0x00007A_803391_00006B_000048_00007A_803392_00004D_000048_00007A_803393_000047_000048,
   0x00007A_803394_000054_000048_00007A_803395_0003BC_00006C_803396_00006D_00006C_803397,
   0x000064_00006C_803398_00006B_00006C_803399_000066_00006D_80339A_00006E_00006D_80339B,
   0x0003BC_00006D_80339C_00006D_00006D_80339D_000063_00006D_80339E_00006B_00006D_80339F,
   0x00006D_00006D_000032_8033A0_000063_00006D_000032_8033A1_00006D_000032_8033A2_00006B,
   0x00006D_000032_8033A3_00006D_00006D_000033_8033A4_000063_00006D_000033_8033A5_00006D,
   0x000033_8033A6_00006B_00006D_000033_8033A7_00006D_002215_000073_8033A8_00006D_002215,
   0x000073_000032_8033A9_000050_000061_8033AA_00006B_000050_000061_8033AB_00004D_000050,
   0x000061_8033AC_000047_000050_000061_8033AD_000072_000061_000064_8033AE_000072_000061,
   0x000064_002215_000073_8033AF_000072_000061_000064_002215_000073_000032_8033B0_000070,
   0x000073_8033B1_00006E_000073_8033B2_0003BC_000073_8033B3_00006D_000073_8033B4_000070,
   0x000056_8033B5_00006E_000056_8033B6_0003BC_000056_8033B7_00006D_000056_8033B8_00006B,
   0x000056_8033B9_00004D_000056_8033BA_000070_000057_8033BB_00006E_000057_8033BC_0003BC,
   0x000057_8033BD_00006D_000057_8033BE_00006B_000057_8033BF_00004D_000057_8033C0_00006B,
   0x0003A9_8033C1_00004D_0003A9_8033C2_000061_00002E_00006D_00002E_8033C3_000042_000071,
   0x8033C4_000063_000063_8033C5_000063_000064_8033C6_000043_002215_00006B_000067_8033C7,
   0x000043_00006F_00002E_8033C8_000064_000042_8033C9_000047_000079_8033CA_000068_000061,
   0x8033CB_000048_000050_8033CC_000069_00006E_8033CD_00004B_00004B_8033CE_00004B_00004D,
   0x8033CF_00006B_000074_8033D0_00006C_00006D_8033D1_00006C_00006E_8033D2_00006C_00006F,
   0x000067_8033D3_00006C_000078_8033D4_00006D_000062_8033D5_00006D_000069_00006C_8033D6,
   0x00006D_00006F_00006C_8033D7_000050_000048_8033D8_000070_00002E_00006D_00002E_8033D9,
   0x000050_000050_00004D_8033DA_000050_000052_8033DB_000073_000072_8033DC_000053_000076,
   0x8033DD_000057_000062_8033DE_000056_002215_00006D_8033DF_000041_002215_00006D_8033E0,
   0x000031_0065E5_8033E1_000032_0065E5_8033E2_000033_0065E5_8033E3_000034_0065E5_8033E4,
   0x000035_0065E5_8033E5_000036_0065E5_8033E6_000037_0065E5_8033E7_000038_0065E5_8033E8,
   0x000039_0065E5_8033E9_000031_000030_0065E5_8033EA_000031_000031_0065E5_8033EB_000031,
   0x000032_0065E5_8033EC_000031_000033_0065E5_8033ED_000031_000034_0065E5_8033EE_000031,
   0x000035_0065E5_8033EF_000031_000036_0065E5_8033F0_000031_000037_0065E5_8033F1_000031,
   0x000038_0065E5_8033F2_000031_000039_0065E5_8033F3_000032_000030_0065E5_8033F4_000032,
   0x000031_0065E5_8033F5_000032_000032_0065E5_8033F6_000032_000033_0065E5_8033F7_000032,
   0x000034_0065E5_8033F8_000032_000035_0065E5_8033F9_000032_000036_0065E5_8033FA_000032,
   0x000037_0065E5_8033FB_000032_000038_0065E5_8033FC_000032_000039_0065E5_8033FD_000033,
   0x000030_0065E5_8033FE_000033_000031_0065E5_8033FF_000067_000061_00006C_80A69C_00044A,
   0x80A69D_00044C_80A770_00A76F_80A7F2_000043_80A7F3_000046_80A7F4_000051_80A7F8_000126,
   0x80A7F9_000153_80AB5C_00A727_80AB5D_00AB37_80AB5E_00026B_80AB5F_00AB52_80AB69_00028D,
   0x80F900_008C48_80F901_0066F4_80F902_008ECA_80F903_008CC8_80F904_006ED1_80F905_004E32,
   0x80F906_0053E5_80F907_009F9C_80F908_009F9C_80F909_005951_80F90A_0091D1_80F90B_005587,
   0x80F90C_005948_80F90D_0061F6_80F90E_007669_80F90F_007F85_80F910_00863F_80F911_0087BA,
   0x80F912_0088F8_80F913_00908F_80F914_006A02_80F915_006D1B_80F916_0070D9_80F917_0073DE,
   0x80F918_00843D_80F919_00916A_80F91A_0099F1_80F91B_004E82_80F91C_005375_80F91D_006B04,
   0x80F91E_00721B_80F91F_00862D_80F920_009E1E_80F921_005D50_80F922_006FEB_80F923_0085CD,
   0x80F924_008964_80F925_0062C9_80F926_0081D8_80F927_00881F_80F928_005ECA_80F929_006717,
   0x80F92A_006D6A_80F92B_0072FC_80F92C_0090CE_80F92D_004F86_80F92E_0051B7_80F92F_0052DE,
   0x80F930_0064C4_80F931_006AD3_80F932_007210_80F933_0076E7_80F934_008001_80F935_008606,
   0x80F936_00865C_80F937_008DEF_80F938_009732_80F939_009B6F_80F93A_009DFA_80F93B_00788C,
   0x80F93C_00797F_80F93D_007DA0_80F93E_0083C9_80F93F_009304_80F940_009E7F_80F941_008AD6,
   0x80F942_0058DF_80F943_005F04_80F944_007C60_80F945_00807E_80F946_007262_80F947_0078CA,
   0x80F948_008CC2_80F949_0096F7_80F94A_0058D8_80F94B_005C62_80F94C_006A13_80F94D_006DDA]

def expansionRowsE : List Nat :=
  [0x80F94E_006F0F_80F94F_007D2F_80F950_007E37_80F951_00964B_80F952_0052D2_80F953_00808B,
   0x80F954_0051DC_80F955_0051CC_80F956_007A1C_80F957_007DBE_80F958_0083F1_80F959_009675,
   0x80F95A_008B80_80F95B_0062CF_80F95C_006A02_80F95D_008AFE_80F95E_004E39_80F95F_005BE7,
   0x80F960_006012_80F961_007387_80F962_007570_80F963_005317_80F964_0078FB_80F965_004FBF,
   0x80F966_005FA9_80F967_004E0D_80F968_006CCC_80F969_006578_80F96A_007D22_80F96B_0053C3,
   0x80F96C_00585E_80F96D_007701_80F96E_008449_80F96F_008AAA_80F970_006BBA_80F971_008FB0,
   0x80F972_006C88_80F973_0062FE_80F974_0082E5_80F975_0063A0_80F976_007565_80F977_004EAE,
   0x80F978_005169_80F979_0051C9_80F97A_006881_80F97B_007CE7_80F97C_00826F_80F97D_008AD2,
   0x80F97E_0091CF_80F97F_0052F5_80F980_005442_80F981_005973_80F982_005EEC_80F983_0065C5,
   0x80F984_006FFE_80F985_00792A_80F986_0095AD_80F987_009A6A_80F988_009E97_80F989_009ECE,
   0x80F98A_00529B_80F98B_0066C6_80F98C_006B77_80F98D_008F62_80F98E_005E74_80F98F_006190,
   0x80F990_006200_80F991_00649A_80F992_006F23_80F993_007149_80F994_007489_80F995_0079CA,
   0x80F996_007DF4_80F997_00806F_80F998_008F26_80F999_0084EE_80F99A_009023_80F99B_00934A,
   0x80F99C_005217_80F99D_0052A3_80F99E_0054BD_80F99F_0070C8_80F9A0_0088C2_80F9A1_008AAA,
   0x80F9A2_005EC9_80F9A3_005FF5_80F9A4_00637B_80F9A5_006BAE_80F9A6_007C3E_80F9A7_007375,
   0x80F9A8_004EE4_80F9A9_0056F9_80F9AA_005BE7_80F9AB_005DBA_80F9AC_00601C_80F9AD_0073B2,
   0x80F9AE_007469_80F9AF_007F9A_80F9B0_008046_80F9B1_009234_80F9B2_0096F6_80F9B3_009748,
   0x80F9B4_009818_80F9B5_004F8B_80F9B6_0079AE_80F9B7_0091B4_80F9B8_0096B8_80F9B9_0060E1,
   0x80F9BA_004E86_80F9BB_0050DA_80F9BC_005BEE_80F9BD_005C3F_80F9BE_006599_80F9BF_006A02,
   0x80F9C0_0071CE_80F9C1_007642_80F9C2_0084FC_80F9C3_00907C_80F9C4_009F8D_80F9C5_006688,
   0x80F9C6_00962E_80F9C7_005289_80F9C8_00677B_80F9C9_0067F3_80F9CA_006D41_80F9CB_006E9C,
   0x80F9CC_007409_80F9CD_007559_80F9CE_00786B_80F9CF_007D10_80F9D0_00985E_80F9D1_00516D,
   0x80F9D2_00622E_80F9D3_009678_80F9D4_00502B_80F9D5_005D19_80F9D6_006DEA_80F9D7_008F2A,
   0x80F9D8_005F8B_80F9D9_006144_80F9DA_006817_80F9DB_007387_80F9DC_009686_80F9DD_005229,
   0x80F9DE_00540F_80F9DF_005C65_80F9E0_006613_80F9E1_00674E_80F9E2_0068A8_80F9E3_006CE5,
   0x80F9E4_007406_80F9E5_0075E2_80F9E6_007F79_80F9E7_0088CF_80F9E8_0088E1_80F9E9_0091CC,
   0x80F9EA_0096E2_80F9EB_00533F_80F9EC_006EBA_80F9ED_00541D_80F9EE_0071D0_80F9EF_007498,
   0x80F9F0_0085FA_80F9F1_0096A3_80F9F2_009C57_80F9F3_009E9F_80F9F4_006797_80F9F5_006DCB,
   0x80F9F6_0081E8_80F9F7_007ACB_80F9F8_007B20_80F9F9_007C92_80F9FA_0072C0_80F9FB_007099,
   0x80F9FC_008B58_80F9FD_004EC0_80F9FE_008336_80F9FF_00523A_80FA00_005207_80FA01_005EA6,
   0x80FA02_0062D3_80FA03_007CD6_80FA04_005B85_80FA05_006D1E_80FA06_0066B4_80FA07_008F3B,
   0x80FA08_00884C_80FA09_00964D_80FA0A_00898B_80FA0B_005ED3_80FA0C_005140_80FA0D_0055C0,
   0x80FA10_00585A_80FA12_006674_80FA15_0051DE_80FA16_00732A_80FA17_0076CA_80FA18_00793C,
   0x80FA19_00795E_80FA1A_007965_80FA1B_00798F_80FA1C_009756_80FA1D_007CBE_80FA1E_007FBD,
   0x80FA20_008612_80FA22_008AF8_80FA25_009038_80FA26_0090FD_80FA2A_0098EF_80FA2B_0098FC,
   0x80FA2C_009928_80FA2D_009DB4_80FA2E_0090DE_80FA2F_0096B7_80FA30_004FAE_80FA31_0050E7,
   0x80FA32_00514D_80FA33_0052C9_80FA34_0052E4_80FA35_005351_80FA36_00559D_80FA37_005606,
   0x80FA38_005668_80FA39_005840_80FA3A_0058A8_80FA3B_005C64_80FA3C_005C6E_80FA3D_006094,
   0x80FA3E_006168_80FA3F_00618E_80FA40_0061F2_80FA41_00654F_80FA42_0065E2_80FA43_006691,
   0x80FA44_006885_80FA45_006D77_80FA46_006E1A_80FA47_006F22_80FA48_00716E_80FA49_00722B,
   0x80FA4A_007422_80FA4B_007891_80FA4C_00793E_80FA4D_007949_80FA4E_007948_80FA4F_007950,
   0x80FA50_007956_80FA51_00795D_80FA52_00798D_80FA53_00798E_80FA54_007A40_80FA55_007A81,
   0x80FA56_007BC0_80FA57_007DF4_80FA58_007E09_80FA59_007E41_80FA5A_007F72_80FA5B_008005,
   0x80FA5C_0081ED_80FA5D_008279_80FA5E_008279_80FA5F_008457_80FA60_008910_80FA61_008996,
   0x80FA62_008B01_80FA63_008B39_80FA64_008CD3_80FA65_008D08_80FA66_008FB6_80FA67_009038,
   0x80FA68_0096E3_80FA69_0097FF_80FA6A_00983B_80FA6B_006075_80FA6C_0242EE_80FA6D_008218,
   0x80FA70_004E26_80FA71_0051B5_80FA72_005168_80FA73_004F80_80FA74_005145_80FA75_005180,
   0x80FA76_0052C7_80FA77_0052FA_80FA78_00559D_80FA79_005555_80FA7A_005599_80FA7B_0055E2,
   0x80FA7C_00585A_80FA7D_0058B3_80FA7E_005944_80FA7F_005954_80FA80_005A62_80FA81_005B28,
   0x80FA82_005ED2_80FA83_005ED9_80FA84_005F69_80FA85_005FAD_80FA86_0060D8_80FA87_00614E,
   0x80FA88_006108_80FA89_00618E_80FA8A_006160_80FA8B_0061F2_80FA8C_006234_80FA8D_0063C4,
   0x80FA8E_00641C_80FA8F_006452_80FA90_006556_80FA91_006674_80FA92_006717_80FA93_00671B,
   0x80FA94_006756_80FA95_006B79_80FA96_006BBA_80FA97_006D41_80FA98_006EDB_80FA99_006ECB,
   0x80FA9A_006F22_80FA9B_00701E_80FA9C_00716E_80FA9D_0077A7_80FA9E_007235_80FA9F_0072AF,
   0x80FAA0_00732A_80FAA1_007471_80FAA2_007506_80FAA3_00753B_80FAA4_00761D_80FAA5_00761F,
   0x80FAA6_0076CA_80FAA7_0076DB_80FAA8_0076F4_80FAA9_00774A_80FAAA_007740_80FAAB_0078CC,
   0x80FAAC_007AB1_80FAAD_007BC0_80FAAE_007C7B_80FAAF_007D5B_80FAB0_007DF4_80FAB1_007F3E,
   0x80FAB2_008005_80FAB3_008352_80FAB4_0083EF_80FAB5_008779_80FAB6_008941_80FAB7_008986,
   0x80FAB8_008996_80FAB9_008ABF_80FABA_008AF8_80FABB_008ACB_80FABC_008B01_80FABD_008AFE,
   0x80FABE_008AED_80FABF_008B39_80FAC0_008B8A_80FAC1_008D08_80FAC2_008F38_80FAC3_009072,
   0x80FAC4_009199_80FAC5_009276_80FAC6_00967C_80FAC7_0096E3_80FAC8_009756_80FAC9_0097DB,
   0x80FACA_0097FF_80FACB_00980B_80FACC_00983B_80FACD_009B12_80FACE_009F9C_80FACF_02284A,
   0x80FAD0_022844_80FAD1_0233D5_80FAD2_003B9D_80FAD3_004018_80FAD4_004039_80FAD5_025249,
   0x80FAD6_025CD0_80FAD7_027ED3_80FAD8_009F43_80FAD9_009F8E_80FB00_000066_000066_80FB01,
   0x000066_000069_80FB02_000066_00006C_80FB03_000066_000066_000069_80FB04_000066_000066,
   0x00006C_80FB05_000073_000074_80FB06_000073_000074_80FB13_000574_000576_80FB14_000574,
   0x000565_80FB15_000574_00056B_80FB16_00057E_000576_80FB17_000574_00056D_80FB1D_0005D9,
   0x0005B4_80FB1F_0005F2_0005B7_80FB20_0005E2_80FB21_0005D0_80FB22_0005D3_80FB23_0005D4,
   0x80FB24_0005DB_80FB25_0005DC_80FB26_0005DD_80FB27_0005E8_80FB28_0005EA_80FB29_00002B,
   0x80FB2A_0005E9_0005C1_80FB2B_0005E9_0005C2_80FB2C_0005E9_0005BC_0005C1_80FB2D_0005E9,
   0x0005BC_0005C2_80FB2E_0005D0_0005B7_80FB2F_0005D0_0005B8_80FB30_0005D0_0005BC_80FB31,
   0x0005D1_0005BC_80FB32_0005D2_0005BC_80FB33_0005D3_0005BC_80FB34_0005D4_0005BC_80FB35,
   0x0005D5_0005BC_80FB36_0005D6_0005BC_80FB38_0005D8_0005BC_80FB39_0005D9_0005BC_80FB3A,
   0x0005DA_0005BC_80FB3B_0005DB_0005BC_80FB3C_0005DC_0005BC_80FB3E_0005DE_0005BC_80FB40,
   0x0005E0_0005BC_80FB41_0005E1_0005BC_80FB43_0005E3_0005BC_80FB44_0005E4_0005BC_80FB46,
   0x0005E6_0005BC_80FB47_0005E7_0005BC_80FB48_0005E8_0005BC_80FB49_0005E9_0005BC_80FB4A,
   0x0005EA_0005BC_80FB4B_0005D5_0005B9_80FB4C_0005D1_0005BF_80FB4D_0005DB_0005BF_80FB4E,
   0x0005E4_0005BF_80FB4F_0005D0_0005DC_80FB50_000671_80FB51_000671_80FB52_00067B_80FB53,
   0x00067B_80FB54_00067B_80FB55_00067B_80FB56_00067E_80FB57_00067E_80FB58_00067E_80FB59,
   0x00067E_80FB5A_000680_80FB5B_000680_80FB5C_000680_80FB5D_000680_80FB5E_00067A_80FB5F,
   0x00067A_80FB60_00067A_80FB61_00067A_80FB62_00067F_80FB63_00067F_80FB64_00067F_80FB65,
   0x00067F_80FB66_000679_80FB67_000679_80FB68_000679_80FB69_000679_80FB6A_0006A4_80FB6B,
   0x0006A4_80FB6C_0006A4_80FB6D_0006A4_80FB6E_0006A6_80FB6F_0006A6_80FB70_0006A6_80FB71,
   0x0006A6_80FB72_000684_80FB73_000684_80FB74_000684_80FB75_000684_80FB76_000683_80FB77,
   0x000683_80FB78_000683_80FB79_000683_80FB7A_000686_80FB7B_000686_80FB7C_000686_80FB7D,
   0x000686_80FB7E_000687_80FB7F_000687_80FB80_000687_80FB81_000687_80FB82_00068D_80FB83,
   0x00068D_80FB84_00068C_80FB85_00068C_80FB86_00068E_80FB87_00068E_80FB88_000688_80FB89,
   0x000688_80FB8A_000698_80FB8B_000698_80FB8C_000691_80FB8D_000691_80FB8E_0006A9_80FB8F,
   0x0006A9_80FB90_0006A9_80FB91_0006A9_80FB92_0006AF_80FB93_0006AF_80FB94_0006AF_80FB95,
   0x0006AF_80FB96_0006B3_80FB97_0006B3_80FB98_0006B3_80FB99_0006B3_80FB9A_0006B1_80FB9B,
   0x0006B1_80FB9C_0006B1_80FB9D_0006B1_80FB9E_0006BA_80FB9F_0006BA_80FBA0_0006BB_80FBA1,
   0x0006BB_80FBA2_0006BB_80FBA3_0006BB_80FBA4_0006D5_000654_80FBA5_0006D5_000654_80FBA6,
   0x0006C1_80FBA7_0006C1_80FBA8_0006C1_80FBA9_0006C1_80FBAA_0006BE_80FBAB_0006BE_80FBAC,
   0x0006BE_80FBAD_0006BE_80FBAE_0006D2_80FBAF_0006D2_80FBB0_0006D2_000654_80FBB1_0006D2,
   0x000654_80FBD3_0006AD_80FBD4_0006AD_80FBD5_0006AD_80FBD6_0006AD_80FBD7_0006C7_80FBD8,
   0x0006C7_80FBD9_0006C6_80FBDA_0006C6_80FBDB_0006C8_80FBDC_0006C8_80FBDD_0006C7_000674,
   0x80FBDE_0006CB_80FBDF_0006CB_80FBE0_0006C5_80FBE1_0006C5_80FBE2_0006C9_80FBE3_0006C9,
   0x80FBE4_0006D0_80FBE5_0006D0_80FBE6_0006D0_80FBE7_0006D0_80FBE8_000649_80FBE9_000649,
   0x80FBEA_00064A_000654_000627_80FBEB_00064A_000654_000627_80FBEC_00064A_000654_0006D5,
   0x80FBED_00064A_000654_0006D5_80FBEE_00064A_000654_000648_80FBEF_00064A_000654_000648,
   0x80FBF0_00064A_000654_0006C7_80FBF1_00064A_000654_0006C7_80FBF2_00064A_000654_0006C6,
   0x80FBF3_00064A_000654_0006C6_80FBF4_00064A_000654_0006C8_80FBF5_00064A_000654_0006C8,
   0x80FBF6_00064A_000654_0006D0_80FBF7_00064A_000654_0006D0_80FBF8_00064A_000654_0006D0,
   0x80FBF9_00064A_000654_000649_80FBFA_00064A_000654_000649_80FBFB_00064A_000654_000649,
   0x80FBFC_0006CC_80FBFD_0006CC_80FBFE_0006CC_80FBFF_0006CC_80FC00_00064A_000654_00062C,
   0x80FC01_00064A_000654_00062D_80FC02_00064A_000654_000645_80FC03_00064A_000654_000649,
   0x80FC04_00064A_000654_00064A_80FC05_000628_00062C_80FC06_000628_00062D_80FC07_000628,
   0x00062E_80FC08_000628_000645_80FC09_000628_000649_80FC0A_000628_00064A_80FC0B_00062A,
   0x00062C_80FC0C_00062A_00062D_80FC0D_00062A_00062E_80FC0E_00062A_000645_80FC0F_00062A,
   0x000649_80FC10_00062A_00064A_80FC11_00062B_00062C_80FC12_00062B_000645_80FC13_00062B,
   0x000649_80FC14_00062B_00064A_80FC15_00062C_00062D_80FC16_00062C_000645_80FC17_00062D,
   0x00062C_80FC18_00062D_000645_80FC19_00062E_00062C_80FC1A_00062E_00062D_80FC1B_00062E,
   0x000645_80FC1C_000633_00062C_80FC1D_000633_00062D_80FC1E_000633_00062E_80FC1F_000633,
   0x000645_80FC20_000635_00062D_80FC21_000635_000645_80FC22_000636_00062C_80FC23_000636,
   0x00062D_80FC24_000636_00062E_80FC25_000636_000645_80FC26_000637_00062D_80FC27_000637,
   0x000645_80FC28_000638_000645_80FC29_000639_00062C_80FC2A_000639_000645_80FC2B_00063A,
   0x00062C_80FC2C_00063A_000645_80FC2D_000641_00062C_80FC2E_000641_00062D_80FC2F_000641,
   0x00062E_80FC30_000641_000645_80FC31_000641_000649_80FC32_000641_00064A_80FC33_000642,
   0x00062D_80FC34_000642_000645_80FC35_000642_000649_80FC36_000642_00064A_80FC37_000643,
   0x000627_80FC38_000643_00062C_80FC39_000643_00062D_80FC3A_000643_00062E_80FC3B_000643,
   0x000644_80FC3C_000643_000645_80FC3D_000643_000649_80FC3E_000643_00064A_80FC3F_000644,
   0x00062C_80FC40_000644_00062D_80FC41_000644_00062E_80FC42_000644_000645_80FC43_000644,
   0x000649_80FC44_000644_00064A_80FC45_000645_00062C_80FC46_000645_00062D_80FC47_000645,
   0x00062E_80FC48_000645_000645_80FC49_000645_000649_80FC4A_000645_00064A_80FC4B_000646,
   0x00062C_80FC4C_000646_00062D_80FC4D_000646_00062E_80FC4E_000646_000645_80FC4F_000646,
   0x000649_80FC50_000646_00064A_80FC51_000647_00062C_80FC52_000647_000645_80FC53_000647,
   0x000649_80FC54_000647_00064A_80FC55_00064A_00062C_80FC56_00064A_00062D_80FC57_00064A,
   0x00062E_80FC58_00064A_000645_80FC59_00064A_000649_80FC5A_00064A_00064A_80FC5B_000630,
   0x000670_80FC5C_000631_000670_80FC5D_000649_000670_80FC5E_000020_00064C_000651_80FC5F,
   0x000020_00064D_000651_80FC60_000020_00064E_000651_80FC61_000020_00064F_000651_80FC62,
   0x000020_000650_000651_80FC63_000020_000651_000670_80FC64_00064A_000654_000631_80FC65,
   0x00064A_000654_000632_80FC66_00064A_000654_000645_80FC67_00064A_000654_000646_80FC68,
   0x00064A_000654_000649_80FC69_00064A_000654_00064A_80FC6A_000628_000631_80FC6B_000628,
   0x000632_80FC6C_000628_000645_80FC6D_000628_000646_80FC6E_000628_000649_80FC6F_000628,
   0x00064A_80FC70_00062A_000631_80FC71_00062A_000632_80FC72_00062A_000645_80FC73_00062A,
   0x000646_80FC74_00062A_000649_80FC75_00062A_00064A_80FC76_00062B_000631_80FC77_00062B,
   0x000632_80FC78_00062B_000645_80FC79_00062B_000646_80FC7A_00062B_000649_80FC7B_00062B,
   0x00064A_80FC7C_000641_000649_80FC7D_000641_00064A_80FC7E_000642_000649_80FC7F_000642,
   0x00064A_80FC80_000643_000627_80FC81_000643_000644_80FC82_000643_000645_80FC83_000643,
   0x000649_80FC84_000643_00064A_80FC85_000644_000645_80FC86_000644_000649_80FC87_000644,
   0x00064A_80FC88_000645_000627_80FC89_000645_000645_80FC8A_000646_000631_80FC8B_000646,
   0x000632_80FC8C_000646_000645_80FC8D_000646_000646_80FC8E_000646_000649_80FC8F_000646,
   0x00064A_80FC90_000649_000670_80FC91_00064A_000631_80FC92_00064A_000632_80FC93_00064A,
   0x000645_80FC94_00064A_000646_80FC95_00064A_000649_80FC96_00064A_00064A_80FC97_00064A,
   0x000654_00062C_80FC98_00064A_000654_00062D_80FC99_00064A_000654_00062E_80FC9A_00064A,
   0x000654_000645_80FC9B_00064A_000654_000647_80FC9C_000628_00062C_80FC9D_000628_00062D,
   0x80FC9E_000628_00062E_80FC9F_000628_000645_80FCA0_000628_000647_80FCA1_00062A_00062C,
   0x80FCA2_00062A_00062D_80FCA3_00062A_00062E_80FCA4_00062A_000645_80FCA5_00062A_000647,
   0x80FCA6_00062B_000645_80FCA7_00062C_00062D_80FCA8_00062C_000645_80FCA9_00062D_00062C,
   0x80FCAA_00062D_000645_80FCAB_00062E_00062C_80FCAC_00062E_000645_80FCAD_000633_00062C]

def expansionRowsF : List Nat :=
  [0x80FCAE_000633_00062D_80FCAF_000633_00062E_80FCB0_000633_000645_80FCB1_000635_00062D,
   0x80FCB2_000635_00062E_80FCB3_000635_000645_80FCB4_000636_00062C_80FCB5_000636_00062D,
   0x80FCB6_000636_00062E_80FCB7_000636_000645_80FCB8_000637_00062D_80FCB9_000638_000645,
   0x80FCBA_000639_00062C_80FCBB_000639_000645_80FCBC_00063A_00062C_80FCBD_00063A_000645,
   0x80FCBE_000641_00062C_80FCBF_000641_00062D_80FCC0_000641_00062E_80FCC1_000641_000645,
   0x80FCC2_000642_00062D_80FCC3_000642_000645_80FCC4_000643_00062C_80FCC5_000643_00062D,
   0x80FCC6_000643_00062E_80FCC7_000643_000644_80FCC8_000643_000645_80FCC9_000644_00062C,
   0x80FCCA_000644_00062D_80FCCB_000644_00062E_80FCCC_000644_000645_80FCCD_000644_000647,
   0x80FCCE_000645_00062C_80FCCF_000645_00062D_80FCD0_000645_00062E_80FCD1_000645_000645,
   0x80FCD2_000646_00062C_80FCD3_000646_00062D_80FCD4_000646_00062E_80FCD5_000646_000645,
   0x80FCD6_000646_000647_80FCD7_000647_00062C_80FCD8_000647_000645_80FCD9_000647_000670,
   0x80FCDA_00064A_00062C_80FCDB_00064A_00062D_80FCDC_00064A_00062E_80FCDD_00064A_000645,
   0x80FCDE_00064A_000647_80FCDF_00064A_000654_000645_80FCE0_00064A_000654_000647_80FCE1,
   0x000628_000645_80FCE2_000628_000647_80FCE3_00062A_000645_80FCE4_00062A_000647_80FCE5,
   0x00062B_000645_80FCE6_00062B_000647_80FCE7_000633_000645_80FCE8_000633_000647_80FCE9,
   0x000634_000645_80FCEA_000634_000647_80FCEB_000643_000644_80FCEC_000643_000645_80FCED,
   0x000644_000645_80FCEE_000646_000645_80FCEF_000646_000647_80FCF0_00064A_000645_80FCF1,
   0x00064A_000647_80FCF2_000640_00064E_000651_80FCF3_000640_00064F_000651_80FCF4_000640,
   0x000650_000651_80FCF5_000637_000649_80FCF6_000637_00064A_80FCF7_000639_000649_80FCF8,
   0x000639_00064A_80FCF9_00063A_000649_80FCFA_00063A_00064A_80FCFB_000633_000649_80FCFC,
   0x000633_00064A_80FCFD_000634_000649_80FCFE_000634_00064A_80FCFF_00062D_000649_80FD00,
   0x00062D_00064A_80FD01_00062C_000649_80FD02_00062C_00064A_80FD03_00062E_000649_80FD04,
   0x00062E_00064A_80FD05_000635_000649_80FD06_000635_00064A_80FD07_000636_000649_80FD08,
   0x000636_00064A_80FD09_000634_00062C_80FD0A_000634_00062D_80FD0B_000634_00062E_80FD0C,
   0x000634_000645_80FD0D_000634_000631_80FD0E_000633_000631_80FD0F_000635_000631_80FD10,
   0x000636_000631_80FD11_000637_000649_80FD12_000637_00064A_80FD13_000639_000649_80FD14,
   0x000639_00064A_80FD15_00063A_000649_80FD16_00063A_00064A_80FD17_000633_000649_80FD18,
   0x000633_00064A_80FD19_000634_000649_80FD1A_000634_00064A_80FD1B_00062D_000649_80FD1C,
   0x00062D_00064A_80FD1D_00062C_000649_80FD1E_00062C_00064A_80FD1F_00062E_000649_80FD20,
   0x00062E_00064A_80FD21_000635_000649_80FD22_000635_00064A_80FD23_000636_000649_80FD24,
   0x000636_00064A_80FD25_000634_00062C_80FD26_000634_00062D_80FD27_000634_00062E_80FD28,
   0x000634_000645_80FD29_000634_000631_80FD2A_000633_000631_80FD2B_000635_000631_80FD2C,
   0x000636_000631_80FD2D_000634_00062C_80FD2E_000634_00062D_80FD2F_000634_00062E_80FD30,
   0x000634_000645_80FD31_000633_000647_80FD32_000634_000647_80FD33_000637_000645_80FD34,
   0x000633_00062C_80FD35_000633_00062D_80FD36_000633_00062E_80FD37_000634_00062C_80FD38,
   0x000634_00062D_80FD39_000634_00062E_80FD3A_000637_000645_80FD3B_000638_000645_80FD3C,
   0x000627_00064B_80FD3D_000627_00064B_80FD50_00062A_00062C_000645_80FD51_00062A_00062D,
   0x00062C_80FD52_00062A_00062D_00062C_80FD53_00062A_00062D_000645_80FD54_00062A_00062E,
   0x000645_80FD55_00062A_000645_00062C_80FD56_00062A_000645_00062D_80FD57_00062A_000645,
   0x00062E_80FD58_00062C_000645_00062D_80FD59_00062C_000645_00062D_80FD5A_00062D_000645,
   0x00064A_80FD5B_00062D_000645_000649_80FD5C_000633_00062D_00062C_80FD5D_000633_00062C,
   0x00062D_80FD5E_000633_00062C_000649_80FD5F_000633_000645_00062D_80FD60_000633_000645,
   0x00062D_80FD61_000633_000645_00062C_80FD62_000633_000645_000645_80FD63_000633_000645,
   0x000645_80FD64_000635_00062D_00062D_80FD65_000635_00062D_00062D_80FD66_000635_000645,
   0x000645_80FD67_000634_00062D_000645_80FD68_000634_00062D_000645_80FD69_000634_00062C,
   0x00064A_80FD6A_000634_000645_00062E_80FD6B_000634_000645_00062E_80FD6C_000634_000645,
   0x000645_80FD6D_000634_000645_000645_80FD6E_000636_00062D_000649_80FD6F_000636_00062E,
   0x000645_80FD70_000636_00062E_000645_80FD71_000637_000645_00062D_80FD72_000637_000645,
   0x00062D_80FD73_000637_000645_000645_80FD74_000637_000645_00064A_80FD75_000639_00062C,
   0x000645_80FD76_000639_000645_000645_80FD77_000639_000645_000645_80FD78_000639_000645,
   0x000649_80FD79_00063A_000645_000645_80FD7A_00063A_000645_00064A_80FD7B_00063A_000645,
   0x000649_80FD7C_000641_00062E_000645_80FD7D_000641_00062E_000645_80FD7E_000642_000645,
   0x00062D_80FD7F_000642_000645_000645_80FD80_000644_00062D_000645_80FD81_000644_00062D,
   0x00064A_80FD82_000644_00062D_000649_80FD83_000644_00062C_00062C_80FD84_000644_00062C,
   0x00062C_80FD85_000644_00062E_000645_80FD86_000644_00062E_000645_80FD87_000644_000645,
   0x00062D_80FD88_000644_000645_00062D_80FD89_000645_00062D_00062C_80FD8A_000645_00062D,
   0x000645_80FD8B_000645_00062D_00064A_80FD8C_000645_00062C_00062D_80FD8D_000645_00062C,
   0x000645_80FD8E_000645_00062E_00062C_80FD8F_000645_00062E_000645_80FD92_000645_00062C,
   0x00062E_80FD93_000647_000645_00062C_80FD94_000647_000645_000645_80FD95_000646_00062D,
   0x000645_80FD96_000646_00062D_000649_80FD97_000646_00062C_000645_80FD98_000646_00062C,
   0x000645_80FD99_000646_00062C_000649_80FD9A_000646_000645_00064A_80FD9B_000646_000645,
   0x000649_80FD9C_00064A_000645_000645_80FD9D_00064A_000645_000645_80FD9E_000628_00062E,
   0x00064A_80FD9F_00062A_00062C_00064A_80FDA0_00062A_00062C_000649_80FDA1_00062A_00062E,
   0x00064A_80FDA2_00062A_00062E_000649_80FDA3_00062A_000645_00064A_80FDA4_00062A_000645,
   0x000649_80FDA5_00062C_000645_00064A_80FDA6_00062C_00062D_000649_80FDA7_00062C_000645,
   0x000649_80FDA8_000633_00062E_000649_80FDA9_000635_00062D_00064A_80FDAA_000634_00062D,
   0x00064A_80FDAB_000636_00062D_00064A_80FDAC_000644_00062C_00064A_80FDAD_000644_000645,
   0x00064A_80FDAE_00064A_00062D_00064A_80FDAF_00064A_00062C_00064A_80FDB0_00064A_000645,
   0x00064A_80FDB1_000645_000645_00064A_80FDB2_000642_000645_00064A_80FDB3_000646_00062D,
   0x00064A_80FDB4_000642_000645_00062D_80FDB5_000644_00062D_000645_80FDB6_000639_000645,
   0x00064A_80FDB7_000643_000645_00064A_80FDB8_000646_00062C_00062D_80FDB9_000645_00062E,
   0x00064A_80FDBA_000644_00062C_000645_80FDBB_000643_000645_000645_80FDBC_000644_00062C,
   0x000645_80FDBD_000646_00062C_00062D_80FDBE_00062C_00062D_00064A_80FDBF_00062D_00062C,
   0x00064A_80FDC0_000645_00062C_00064A_80FDC1_000641_000645_00064A_80FDC2_000628_00062D,
   0x00064A_80FDC3_000643_000645_000645_80FDC4_000639_00062C_000645_80FDC5_000635_000645,
   0x000645_80FDC6_000633_00062E_00064A_80FDC7_000646_00062C_00064A_80FDF0_000635_000644,
   0x0006D2_80FDF1_000642_000644_0006D2_80FDF2_000627_000644_000644_000647_80FDF3_000627,
   0x000643_000628_000631_80FDF4_000645_00062D_000645_00062F_80FDF5_000635_000644_000639,
   0x000645_80FDF6_000631_000633_000648_000644_80FDF7_000639_000644_00064A_000647_80FDF8,
   0x000648_000633_000644_000645_80FDF9_000635_000644_000649_80FDFA_000635_000644_000649,
   0x000020_000627_000644_000644_000647_000020_000639_000644_00064A_000647_000020_000648,
   0x000633_000644_000645_80FDFB_00062C_000644_000020_00062C_000644_000627_000644_000647,
   0x80FDFC_000631_0006CC_000627_000644_80FE10_00002C_80FE11_003001_80FE12_003002_80FE13,
   0x00003A_80FE14_00003B_80FE15_000021_80FE16_00003F_80FE17_003016_80FE18_003017_80FE19,
   0x00002E_00002E_00002E_80FE30_00002E_00002E_80FE31_002014_80FE32_002013_80FE33_00005F,
   0x80FE34_00005F_80FE35_000028_80FE36_000029_80FE37_00007B_80FE38_00007D_80FE39_003014,
   0x80FE3A_003015_80FE3B_003010_80FE3C_003011_80FE3D_00300A_80FE3E_00300B_80FE3F_003008,
   0x80FE40_003009_80FE41_00300C_80FE42_00300D_80FE43_00300E_80FE44_00300F_80FE47_00005B,
   0x80FE48_00005D_80FE49_000020_000305_80FE4A_000020_000305_80FE4B_000020_000305_80FE4C,
   0x000020_000305_80FE4D_00005F_80FE4E_00005F_80FE4F_00005F_80FE50_00002C_80FE51_003001,
   0x80FE52_00002E_80FE54_00003B_80FE55_00003A_80FE56_00003F_80FE57_000021_80FE58_002014,
   0x80FE59_000028_80FE5A_000029_80FE5B_00007B_80FE5C_00007D_80FE5D_003014_80FE5E_003015,
   0x80FE5F_000023_80FE60_000026_80FE61_00002A_80FE62_00002B_80FE63_00002D_80FE64_00003C,
   0x80FE65_00003E_80FE66_00003D_80FE68_00005C_80FE69_000024_80FE6A_000025_80FE6B_000040,
   0x80FE70_000020_00064B_80FE71_000640_00064B_80FE72_000020_00064C_80FE74_000020_00064D,
   0x80FE76_000020_00064E_80FE77_000640_00064E_80FE78_000020_00064F_80FE79_000640_00064F,
   0x80FE7A_000020_000650_80FE7B_000640_000650_80FE7C_000020_000651_80FE7D_000640_000651,
   0x80FE7E_000020_000652_80FE7F_000640_000652_80FE80_000621_80FE81_000627_000653_80FE82,
   0x000627_000653_80FE83_000627_000654_80FE84_000627_000654_80FE85_000648_000654_80FE86,
   0x000648_000654_80FE87_000627_000655_80FE88_000627_000655_80FE89_00064A_000654_80FE8A,
   0x00064A_000654_80FE8B_00064A_000654_80FE8C_00064A_000654_80FE8D_000627_80FE8E_000627,
   0x80FE8F_000628_80FE90_000628_80FE91_000628_80FE92_000628_80FE93_000629_80FE94_000629,
   0x80FE95_00062A_80FE96_00062A_80FE97_00062A_80FE98_00062A_80FE99_00062B_80FE9A_00062B,
   0x80FE9B_00062B_80FE9C_00062B_80FE9D_00062C_80FE9E_00062C_80FE9F_00062C_80FEA0_00062C,
   0x80FEA1_00062D_80FEA2_00062D_80FEA3_00062D_80FEA4_00062D_80FEA5_00062E_80FEA6_00062E,
   0x80FEA7_00062E_80FEA8_00062E_80FEA9_00062F_80FEAA_00062F_80FEAB_000630_80FEAC_000630,
   0x80FEAD_000631_80FEAE_000631_80FEAF_000632_80FEB0_000632_80FEB1_000633_80FEB2_000633,
   0x80FEB3_000633_80FEB4_000633_80FEB5_000634_80FEB6_000634_80FEB7_000634_80FEB8_000634,
   0x80FEB9_000635_80FEBA_000635_80FEBB_000635_80FEBC_000635_80FEBD_000636_80FEBE_000636,
   0x80FEBF_000636_80FEC0_000636_80FEC1_000637_80FEC2_000637_80FEC3_000637_80FEC4_000637,
   0x80FEC5_000638_80FEC6_000638_80FEC7_000638_80FEC8_000638_80FEC9_000639_80FECA_000639,
   0x80FECB_000639_80FECC_000639_80FECD_00063A_80FECE_00063A_80FECF_00063A_80FED0_00063A,
   0x80FED1_000641_80FED2_000641_80FED3_000641_80FED4_000641_80FED5_000642_80FED6_000642,
   0x80FED7_000642_80FED8_000642_80FED9_000643_80FEDA_000643_80FEDB_000643_80FEDC_000643,
   0x80FEDD_000644_80FEDE_000644_80FEDF_000644_80FEE0_000644_80FEE1_000645_80FEE2_000645,
   0x80FEE3_000645_80FEE4_000645_80FEE5_000646_80FEE6_000646_80FEE7_000646_80FEE8_000646,
   0x80FEE9_000647_80FEEA_000647_80FEEB_000647_80FEEC_000647_80FEED_000648_80FEEE_000648,
   0x80FEEF_000649_80FEF0_000649_80FEF1_00064A_80FEF2_00064A_80FEF3_00064A_80FEF4_00064A,
   0x80FEF5_000644_000627_000653_80FEF6_000644_000627_000653_80FEF7_000644_000627_000654,
   0x80FEF8_000644_000627_000654_80FEF9_000644_000627_000655_80FEFA_000644_000627_000655,
   0x80FEFB_000644_000627_80FEFC_000644_000627_80FF01_000021_80FF02_000022_80FF03_000023,
   0x80FF04_000024_80FF05_000025_80FF06_000026_80FF07_000027_80FF08_000028_80FF09_000029,
   0x80FF0A_00002A_80FF0B_00002B_80FF0C_00002C_80FF0D_00002D_80FF0E_00002E_80FF0F_00002F,
   0x80FF10_000030_80FF11_000031_80FF12_000032_80FF13_000033_80FF14_000034_80FF15_000035,
   0x80FF16_000036_80FF17_000037_80FF18_000038_80FF19_000039_80FF1A_00003A_80FF1B_00003B,
   0x80FF1C_00003C_80FF1D_00003D_80FF1E_00003E_80FF1F_00003F_80FF20_000040_80FF21_000041,
   0x80FF22_000042_80FF23_000043_80FF24_000044_80FF25_000045_80FF26_000046_80FF27_000047,
   0x80FF28_000048_80FF29_000049_80FF2A_00004A_80FF2B_00004B_80FF2C_00004C_80FF2D_00004D,
   0x80FF2E_00004E_80FF2F_00004F_80FF30_000050_80FF31_000051_80FF32_000052_80FF33_000053,
   0x80FF34_000054_80FF35_000055_80FF36_000056_80FF37_000057_80FF38_000058_80FF39_000059,
   0x80FF3A_00005A_80FF3B_00005B_80FF3C_00005C_80FF3D_00005D_80FF3E_00005E_80FF3F_00005F,
   0x80FF40_000060_80FF41_000061_80FF42_000062_80FF43_000063_80FF44_000064_80FF45_000065,
   0x80FF46_000066_80FF47_000067_80FF48_000068_80FF49_000069_80FF4A_00006A_80FF4B_00006B,
   0x80FF4C_00006C_80FF4D_00006D_80FF4E_00006E_80FF4F_00006F_80FF50_000070_80FF51_000071,
   0x80FF52_000072_80FF53_000073_80FF54_000074_80FF55_000075_80FF56_000076_80FF57_000077,
   0x80FF58_000078_80FF59_000079_80FF5A_00007A_80FF5B_00007B_80FF5C_00007C_80FF5D_00007D,
   0x80FF5E_00007E_80FF5F_002985_80FF60_002986_80FF61_003002_80FF62_00300C_80FF63_00300D,
   0x80FF64_003001_80FF65_0030FB_80FF66_0030F2_80FF67_0030A1_80FF68_0030A3_80FF69_0030A5,
   0x80FF6A_0030A7_80FF6B_0030A9_80FF6C_0030E3_80FF6D_0030E5_80FF6E_0030E7_80FF6F_0030C3,
   0x80FF70_0030FC_80FF71_0030A2_80FF72_0030A4_80FF73_0030A6_80FF74_0030A8_80FF75_0030AA,
   0x80FF76_0030AB_80FF77_0030AD_80FF78_0030AF_80FF79_0030B1_80FF7A_0030B3_80FF7B_0030B5,
   0x80FF7C_0030B7_80FF7D_0030B9_80FF7E_0030BB_80FF7F_0030BD_80FF80_0030BF_80FF81_0030C1,
   0x80FF82_0030C4_80FF83_0030C6_80FF84_0030C8_80FF85_0030CA_80FF86_0030CB_80FF87_0030CC,
   0x80FF88_0030CD_80FF89_0030CE_80FF8A_0030CF_80FF8B_0030D2_80FF8C_0030D5_80FF8D_0030D8,
   0x80FF8E_0030DB_80FF8F_0030DE_80FF90_0030DF_80FF91_0030E0_80FF92_0030E1_80FF93_0030E2,
   0x80FF94_0030E4_80FF95_0030E6_80FF96_0030E8_80FF97_0030E9_80FF98_0030EA_80FF99_0030EB,
   0x80FF9A_0030EC_80FF9B_0030ED_80FF9C_0030EF_80FF9D_0030F3_80FF9E_003099_80FF9F_00309A,
   0x80FFA0_001160_80FFA1_001100_80FFA2_001101_80FFA3_0011AA_80FFA4_001102_80FFA5_0011AC,
   0x80FFA6_0011AD_80FFA7_001103_80FFA8_001104_80FFA9_001105_80FFAA_0011B0_80FFAB_0011B1,
   0x80FFAC_0011B2_80FFAD_0011B3_80FFAE_0011B4_80FFAF_0011B5_80FFB0_00111A_80FFB1_001106]

def expansionRowsG : List Nat :=
  [0x80FFB2_001107_80FFB3_001108_80FFB4_001121_80FFB5_001109_80FFB6_00110A_80FFB7_00110B,
   0x80FFB8_00110C_80FFB9_00110D_80FFBA_00110E_80FFBB_00110F_80FFBC_001110_80FFBD_001111,
   0x80FFBE_001112_80FFC2_001161_80FFC3_001162_80FFC4_001163_80FFC5_001164_80FFC6_001165,
   0x80FFC7_001166_80FFCA_001167_80FFCB_001168_80FFCC_001169_80FFCD_00116A_80FFCE_00116B,
   0x80FFCF_00116C_80FFD2_00116D_80FFD3_00116E_80FFD4_00116F_80FFD5_001170_80FFD6_001171,
   0x80FFD7_001172_80FFDA_001173_80FFDB_001174_80FFDC_001175_80FFE0_0000A2_80FFE1_0000A3,
   0x80FFE2_0000AC_80FFE3_000020_000304_80FFE4_0000A6_80FFE5_0000A5_80FFE6_0020A9_80FFE8,
   0x002502_80FFE9_002190_80FFEA_002191_80FFEB_002192_80FFEC_002193_80FFED_0025A0_80FFEE,
   0x0025CB_8105C9_0105D2_000307_8105E4_0105DA_000307_810781_0002D0_810782_0002D1_810783,
   0x0000E6_810784_000299_810785_000253_810787_0002A3_810788_00AB66_810789_0002A5_81078A,
   0x0002A4_81078B_000256_81078C_000257_81078D_001D91_81078E_000258_81078F_00025E_810790,
   0x0002A9_810791_000264_810792_000262_810793_000260_810794_00029B_810795_000127_810796,
   0x00029C_810797_000267_810798_000284_810799_0002AA_81079A_0002AB_81079B_00026C_81079C,
   0x01DF04_81079D_00A78E_81079E_00026E_81079F_01DF05_8107A0_00028E_8107A1_01DF06_8107A2,
   0x0000F8_8107A3_000276_8107A4_000277_8107A5_000071_8107A6_00027A_8107A7_01DF08_8107A8,
   0x00027D_8107A9_00027E_8107AA_000280_8107AB_0002A8_8107AC_0002A6_8107AD_00AB67_8107AE,
   0x0002A7_8107AF_000288_8107B0_002C71_8107B2_00028F_8107B3_0002A1_8107B4_0002A2_8107B5,
   0x000298_8107B6_0001C0_8107B7_0001C1_8107B8_0001C2_8107B9_01DF0A_8107BA_01DF1E_81109A,
   0x011099_0110BA_81109C_01109B_0110BA_8110AB_0110A5_0110BA_81112E_011131_011127_81112F,
   0x011132_011127_81134B_011347_01133E_81134C_011347_011357_811383_011382_0113C9_811385,
   0x011384_0113BB_81138E_01138B_0113C2_811391_011390_0113C9_8113C5_0113C2_0113C2_8113C7,
   0x0113C2_0113B8_8113C8_0113C2_0113C9_8114BB_0114B9_0114BA_8114BC_0114B9_0114B0_8114BE,
   0x0114B9_0114BD_8115BA_0115B8_0115AF_8115BB_0115B9_0115AF_811938_011935_011930_816121,
   0x01611E_01611E_816122_01611E_016129_816123_01611E_01611F_816124_016129_01611F_816125,
   0x01611E_016120_816126_01611E_01611E_01611F_816127_01611E_016129_01611F_816128_01611E,
   0x01611E_016120_816D68_016D67_016D67_816D69_016D63_016D67_816D6A_016D63_016D67_016D67,
   0x81CCD6_000041_81CCD7_000042_81CCD8_000043_81CCD9_000044_81CCDA_000045_81CCDB_000046,
   0x81CCDC_000047_81CCDD_000048_81CCDE_000049_81CCDF_00004A_81CCE0_00004B_81CCE1_00004C,
   0x81CCE2_00004D_81CCE3_00004E_81CCE4_00004F_81CCE5_000050_81CCE6_000051_81CCE7_000052,
   0x81CCE8_000053_81CCE9_000054_81CCEA_000055_81CCEB_000056_81CCEC_000057_81CCED_000058,
   0x81CCEE_000059_81CCEF_00005A_81CCF0_000030_81CCF1_000031_81CCF2_000032_81CCF3_000033,
   0x81CCF4_000034_81CCF5_000035_81CCF6_000036_81CCF7_000037_81CCF8_000038_81CCF9_000039,
   0x81D15E_01D157_01D165_81D15F_01D158_01D165_81D160_01D158_01D165_01D16E_81D161_01D158,
   0x01D165_01D16F_81D162_01D158_01D165_01D170_81D163_01D158_01D165_01D171_81D164_01D158,
   0x01D165_01D172_81D1BB_01D1B9_01D165_81D1BC_01D1BA_01D165_81D1BD_01D1B9_01D165_01D16E,
   0x81D1BE_01D1BA_01D165_01D16E_81D1BF_01D1B9_01D165_01D16F_81D1C0_01D1BA_01D165_01D16F,
   0x81D400_000041_81D401_000042_81D402_000043_81D403_000044_81D404_000045_81D405_000046,
   0x81D406_000047_81D407_000048_81D408_000049_81D409_00004A_81D40A_00004B_81D40B_00004C,
   0x81D40C_00004D_81D40D_00004E_81D40E_00004F_81D40F_000050_81D410_000051_81D411_000052,
   0x81D412_000053_81D413_000054_81D414_000055_81D415_000056_81D416_000057_81D417_000058,
   0x81D418_000059_81D419_00005A_81D41A_000061_81D41B_000062_81D41C_000063_81D41D_000064,
   0x81D41E_000065_81D41F_000066_81D420_000067_81D421_000068_81D422_000069_81D423_00006A,
   0x81D424_00006B_81D425_00006C_81D426_00006D_81D427_00006E_81D428_00006F_81D429_000070,
   0x81D42A_000071_81D42B_000072_81D42C_000073_81D42D_000074_81D42E_000075_81D42F_000076,
   0x81D430_000077_81D431_000078_81D432_000079_81D433_00007A_81D434_000041_81D435_000042,
   0x81D436_000043_81D437_000044_81D438_000045_81D439_000046_81D43A_000047_81D43B_000048,
   0x81D43C_000049_81D43D_00004A_81D43E_00004B_81D43F_00004C_81D440_00004D_81D441_00004E,
   0x81D442_00004F_81D443_000050_81D444_000051_81D445_000052_81D446_000053_81D447_000054,
   0x81D448_000055_81D449_000056_81D44A_000057_81D44B_000058_81D44C_000059_81D44D_00005A,
   0x81D44E_000061_81D44F_000062_81D450_000063_81D451_000064_81D452_000065_81D453_000066,
   0x81D454_000067_81D456_000069_81D457_00006A_81D458_00006B_81D459_00006C_81D45A_00006D,
   0x81D45B_00006E_81D45C_00006F_81D45D_000070_81D45E_000071_81D45F_000072_81D460_000073,
   0x81D461_000074_81D462_000075_81D463_000076_81D464_000077_81D465_000078_81D466_000079,
   0x81D467_00007A_81D468_000041_81D469_000042_81D46A_000043_81D46B_000044_81D46C_000045,
   0x81D46D_000046_81D46E_000047_81D46F_000048_81D470_000049_81D471_00004A_81D472_00004B,
   0x81D473_00004C_81D474_00004D_81D475_00004E_81D476_00004F_81D477_000050_81D478_000051,
   0x81D479_000052_81D47A_000053_81D47B_000054_81D47C_000055_81D47D_000056_81D47E_000057,
   0x81D47F_000058_81D480_000059_81D481_00005A_81D482_000061_81D483_000062_81D484_000063,
   0x81D485_000064_81D486_000065_81D487_000066_81D488_000067_81D489_000068_81D48A_000069,
   0x81D48B_00006A_81D48C_00006B_81D48D_00006C_81D48E_00006D_81D48F_00006E_81D490_00006F,
   0x81D491_000070_81D492_000071_81D493_000072_81D494_000073_81D495_000074_81D496_000075,
   0x81D497_000076_81D498_000077_81D499_000078_81D49A_000079_81D49B_00007A_81D49C_000041,
   0x81D49E_000043_81D49F_000044_81D4A2_000047_81D4A5_00004A_81D4A6_00004B_81D4A9_00004E,
   0x81D4AA_00004F_81D4AB_000050_81D4AC_000051_81D4AE_000053_81D4AF_000054_81D4B0_000055,
   0x81D4B1_000056_81D4B2_000057_81D4B3_000058_81D4B4_000059_81D4B5_00005A_81D4B6_000061,
   0x81D4B7_000062_81D4B8_000063_81D4B9_000064_81D4BB_000066_81D4BD_000068_81D4BE_000069,
   0x81D4BF_00006A_81D4C0_00006B_81D4C1_00006C_81D4C2_00006D_81D4C3_00006E_81D4C5_000070,
   0x81D4C6_000071_81D4C7_000072_81D4C8_000073_81D4C9_000074_81D4CA_000075_81D4CB_000076,
   0x81D4CC_000077_81D4CD_000078_81D4CE_000079_81D4CF_00007A_81D4D0_000041_81D4D1_000042,
   0x81D4D2_000043_81D4D3_000044_81D4D4_000045_81D4D5_000046_81D4D6_000047_81D4D7_000048,
   0x81D4D8_000049_81D4D9_00004A_81D4DA_00004B_81D4DB_00004C_81D4DC_00004D_81D4DD_00004E,
   0x81D4DE_00004F_81D4DF_000050_81D4E0_000051_81D4E1_000052_81D4E2_000053_81D4E3_000054,
   0x81D4E4_000055_81D4E5_000056_81D4E6_000057_81D4E7_000058_81D4E8_000059_81D4E9_00005A,
   0x81D4EA_000061_81D4EB_000062_81D4EC_000063_81D4ED_000064_81D4EE_000065_81D4EF_000066,
   0x81D4F0_000067_81D4F1_000068_81D4F2_000069_81D4F3_00006A_81D4F4_00006B_81D4F5_00006C,
   0x81D4F6_00006D_81D4F7_00006E_81D4F8_00006F_81D4F9_000070_81D4FA_000071_81D4FB_000072,
   0x81D4FC_000073_81D4FD_000074_81D4FE_000075_81D4FF_000076_81D500_000077_81D501_000078,
   0x81D502_000079_81D503_00007A_81D504_000041_81D505_000042_81D507_000044_81D508_000045,
   0x81D509_000046_81D50A_000047_81D50D_00004A_81D50E_00004B_81D50F_00004C_81D510_00004D,
   0x81D511_00004E_81D512_00004F_81D513_000050_81D514_000051_81D516_000053_81D517_000054,
   0x81D518_000055_81D519_000056_81D51A_000057_81D51B_000058_81D51C_000059_81D51E_000061,
   0x81D51F_000062_81D520_000063_81D521_000064_81D522_000065_81D523_000066_81D524_000067,
   0x81D525_000068_81D526_000069_81D527_00006A_81D528_00006B_81D529_00006C_81D52A_00006D,
   0x81D52B_00006E_81D52C_00006F_81D52D_000070_81D52E_000071_81D52F_000072_81D530_000073,
   0x81D531_000074_81D532_000075_81D533_000076_81D534_000077_81D535_000078_81D536_000079,
   0x81D537_00007A_81D538_000041_81D539_000042_81D53B_000044_81D53C_000045_81D53D_000046,
   0x81D53E_000047_81D540_000049_81D541_00004A_81D542_00004B_81D543_00004C_81D544_00004D,
   0x81D546_00004F_81D54A_000053_81D54B_000054_81D54C_000055_81D54D_000056_81D54E_000057,
   0x81D54F_000058_81D550_000059_81D552_000061_81D553_000062_81D554_000063_81D555_000064,
   0x81D556_000065_81D557_000066_81D558_000067_81D559_000068_81D55A_000069_81D55B_00006A,
   0x81D55C_00006B_81D55D_00006C_81D55E_00006D_81D55F_00006E_81D560_00006F_81D561_000070,
   0x81D562_000071_81D563_000072_81D564_000073_81D565_000074_81D566_000075_81D567_000076,
   0x81D568_000077_81D569_000078_81D56A_000079_81D56B_00007A_81D56C_000041_81D56D_000042,
   0x81D56E_000043_81D56F_000044_81D570_000045_81D571_000046_81D572_000047_81D573_000048,
   0x81D574_000049_81D575_00004A_81D576_00004B_81D577_00004C_81D578_00004D_81D579_00004E,
   0x81D57A_00004F_81D57B_000050_81D57C_000051_81D57D_000052_81D57E_000053_81D57F_000054,
   0x81D580_000055_81D581_000056_81D582_000057_81D583_000058_81D584_000059_81D585_00005A,
   0x81D586_000061_81D587_000062_81D588_000063_81D589_000064_81D58A_000065_81D58B_000066,
   0x81D58C_000067_81D58D_000068_81D58E_000069_81D58F_00006A_81D590_00006B_81D591_00006C,
   0x81D592_00006D_81D593_00006E_81D594_00006F_81D595_000070_81D596_000071_81D597_000072,
   0x81D598_000073_81D599_000074_81D59A_000075_81D59B_000076_81D59C_000077_81D59D_000078,
   0x81D59E_000079_81D59F_00007A_81D5A0_000041_81D5A1_000042_81D5A2_000043_81D5A3_000044,
   0x81D5A4_000045_81D5A5_000046_81D5A6_000047_81D5A7_000048_81D5A8_000049_81D5A9_00004A,
   0x81D5AA_00004B_81D5AB_00004C_81D5AC_00004D_81D5AD_00004E_81D5AE_00004F_81D5AF_000050,
   0x81D5B0_000051_81D5B1_000052_81D5B2_000053_81D5B3_000054_81D5B4_000055_81D5B5_000056,
   0x81D5B6_000057_81D5B7_000058_81D5B8_000059_81D5B9_00005A_81D5BA_000061_81D5BB_000062,
   0x81D5BC_000063_81D5BD_000064_81D5BE_000065_81D5BF_000066_81D5C0_000067_81D5C1_000068,
   0x81D5C2_000069_81D5C3_00006A_81D5C4_00006B_81D5C5_00006C_81D5C6_00006D_81D5C7_00006E,
   0x81D5C8_00006F_81D5C9_000070_81D5CA_000071_81D5CB_000072_81D5CC_000073_81D5CD_000074,
   0x81D5CE_000075_81D5CF_000076_81D5D0_000077_81D5D1_000078_81D5D2_000079_81D5D3_00007A,
   0x81D5D4_000041_81D5D5_000042_81D5D6_000043_81D5D7_000044_81D5D8_000045_81D5D9_000046,
   0x81D5DA_000047_81D5DB_000048_81D5DC_000049_81D5DD_00004A_81D5DE_00004B_81D5DF_00004C,
   0x81D5E0_00004D_81D5E1_00004E_81D5E2_00004F_81D5E3_000050_81D5E4_000051_81D5E5_000052,
   0x81D5E6_000053_81D5E7_000054_81D5E8_000055_81D5E9_000056_81D5EA_000057_81D5EB_000058,
   0x81D5EC_000059_81D5ED_00005A_81D5EE_000061_81D5EF_000062_81D5F0_000063_81D5F1_000064,
   0x81D5F2_000065_81D5F3_000066_81D5F4_000067_81D5F5_000068_81D5F6_000069_81D5F7_00006A,
   0x81D5F8_00006B_81D5F9_00006C_81D5FA_00006D_81D5FB_00006E_81D5FC_00006F_81D5FD_000070,
   0x81D5FE_000071_81D5FF_000072_81D600_000073_81D601_000074_81D602_000075_81D603_000076,
   0x81D604_000077_81D605_000078_81D606_000079_81D607_00007A_81D608_000041_81D609_000042,
   0x81D60A_000043_81D60B_000044_81D60C_000045_81D60D_000046_81D60E_000047_81D60F_000048,
   0x81D610_000049_81D611_00004A_81D612_00004B_81D613_00004C_81D614_00004D_81D615_00004E,
   0x81D616_00004F_81D617_000050_81D618_000051_81D619_000052_81D61A_000053_81D61B_000054,
   0x81D61C_000055_81D61D_000056_81D61E_000057_81D61F_000058_81D620_000059_81D621_00005A,
   0x81D622_000061_81D623_000062_81D624_000063_81D625_000064_81D626_000065_81D627_000066,
   0x81D628_000067_81D629_000068_81D62A_000069_81D62B_00006A_81D62C_00006B_81D62D_00006C,
   0x81D62E_00006D_81D62F_00006E_81D630_00006F_81D631_000070_81D632_000071_81D633_000072,
   0x81D634_000073_81D635_000074_81D636_000075_81D637_000076_81D638_000077_81D639_000078,
   0x81D63A_000079_81D63B_00007A_81D63C_000041_81D63D_000042_81D63E_000043_81D63F_000044,
   0x81D640_000045_81D641_000046_81D642_000047_81D643_000048_81D644_000049_81D645_00004A,
   0x81D646_00004B_81D647_00004C_81D648_00004D_81D649_00004E_81D64A_00004F_81D64B_000050,
   0x81D64C_000051_81D64D_000052_81D64E_000053_81D64F_000054_81D650_000055_81D651_000056,
   0x81D652_000057_81D653_000058_81D654_000059_81D655_00005A_81D656_000061_81D657_000062,
   0x81D658_000063_81D659_000064_81D65A_000065_81D65B_000066_81D65C_000067_81D65D_000068,
   0x81D65E_000069_81D65F_00006A_81D660_00006B_81D661_00006C_81D662_00006D_81D663_00006E,
   0x81D664_00006F_81D665_000070_81D666_000071_81D667_000072_81D668_000073_81D669_000074,
   0x81D66A_000075_81D66B_000076_81D66C_000077_81D66D_000078_81D66E_000079_81D66F_00007A,
   0x81D670_000041_81D671_000042_81D672_000043_81D673_000044_81D674_000045_81D675_000046,
   0x81D676_000047_81D677_000048_81D678_000049_81D679_00004A_81D67A_00004B_81D67B_00004C,
   0x81D67C_00004D_81D67D_00004E_81D67E_00004F_81D67F_000050_81D680_000051_81D681_000052,
   0x81D682_000053_81D683_000054_81D684_000055_81D685_000056_81D686_000057_81D687_000058,
   0x81D688_000059_81D689_00005A_81D68A_000061_81D68B_000062_81D68C_000063_81D68D_000064,
   0x81D68E_000065_81D68F_000066_81D690_000067_81D691_000068_81D692_000069_81D693_00006A,
   0x81D694_00006B_81D695_00006C_81D696_00006D_81D697_00006E_81D698_00006F_81D699_000070,
   0x81D69A_000071_81D69B_000072_81D69C_000073_81D69D_000074_81D69E_000075_81D69F_000076,
   0x81D6A0_000077_81D6A1_000078_81D6A2_000079_81D6A3_00007A_81D6A4_000131_81D6A5_000237,
   0x81D6A8_000391_81D6A9_000392_81D6AA_000393_81D6AB_000394_81D6AC_000395_81D6AD_000396,
   0x81D6AE_000397_81D6AF_000398_81D6B0_000399_81D6B1_00039A_81D6B2_00039B_81D6B3_00039C,
   0x81D6B4_00039D_81D6B5_00039E_81D6B6_00039F_81D6B7_0003A0_81D6B8_0003A1_81D6B9_000398,
   0x81D6BA_0003A3_81D6BB_0003A4_81D6BC_0003A5_81D6BD_0003A6_81D6BE_0003A7_81D6BF_0003A8,
   0x81D6C0_0003A9_81D6C1_002207_81D6C2_0003B1_81D6C3_0003B2_81D6C4_0003B3_81D6C5_0003B4]

def expansionRowsH : List Nat :=
  [0x81D6C6_0003B5_81D6C7_0003B6_81D6C8_0003B7_81D6C9_0003B8_81D6CA_0003B9_81D6CB_0003BA,
   0x81D6CC_0003BB_81D6CD_0003BC_81D6CE_0003BD_81D6CF_0003BE_81D6D0_0003BF_81D6D1_0003C0,
   0x81D6D2_0003C1_81D6D3_0003C2_81D6D4_0003C3_81D6D5_0003C4_81D6D6_0003C5_81D6D7_0003C6,
   0x81D6D8_0003C7_81D6D9_0003C8_81D6DA_0003C9_81D6DB_002202_81D6DC_0003B5_81D6DD_0003B8,
   0x81D6DE_0003BA_81D6DF_0003C6_81D6E0_0003C1_81D6E1_0003C0_81D6E2_000391_81D6E3_000392,
   0x81D6E4_000393_81D6E5_000394_81D6E6_000395_81D6E7_000396_81D6E8_000397_81D6E9_000398,
   0x81D6EA_000399_81D6EB_00039A_81D6EC_00039B_81D6ED_00039C_81D6EE_00039D_81D6EF_00039E,
   0x81D6F0_00039F_81D6F1_0003A0_81D6F2_0003A1_81D6F3_000398_81D6F4_0003A3_81D6F5_0003A4,
   0x81D6F6_0003A5_81D6F7_0003A6_81D6F8_0003A7_81D6F9_0003A8_81D6FA_0003A9_81D6FB_002207,
   0x81D6FC_0003B1_81D6FD_0003B2_81D6FE_0003B3_81D6FF_0003B4_81D700_0003B5_81D701_0003B6,
   0x81D702_0003B7_81D703_0003B8_81D704_0003B9_81D705_0003BA_81D706_0003BB_81D707_0003BC,
   0x81D708_0003BD_81D709_0003BE_81D70A_0003BF_81D70B_0003C0_81D70C_0003C1_81D70D_0003C2,
   0x81D70E_0003C3_81D70F_0003C4_81D710_0003C5_81D711_0003C6_81D712_0003C7_81D713_0003C8,
   0x81D714_0003C9_81D715_002202_81D716_0003B5_81D717_0003B8_81D718_0003BA_81D719_0003C6,
   0x81D71A_0003C1_81D71B_0003C0_81D71C_000391_81D71D_000392_81D71E_000393_81D71F_000394,
   0x81D720_000395_81D721_000396_81D722_000397_81D723_000398_81D724_000399_81D725_00039A,
   0x81D726_00039B_81D727_00039C_81D728_00039D_81D729_00039E_81D72A_00039F_81D72B_0003A0,
   0x81D72C_0003A1_81D72D_000398_81D72E_0003A3_81D72F_0003A4_81D730_0003A5_81D731_0003A6,
   0x81D732_0003A7_81D733_0003A8_81D734_0003A9_81D735_002207_81D736_0003B1_81D737_0003B2,
   0x81D738_0003B3_81D739_0003B4_81D73A_0003B5_81D73B_0003B6_81D73C_0003B7_81D73D_0003B8,
   0x81D73E_0003B9_81D73F_0003BA_81D740_0003BB_81D741_0003BC_81D742_0003BD_81D743_0003BE,
   0x81D744_0003BF_81D745_0003C0_81D746_0003C1_81D747_0003C2_81D748_0003C3_81D749_0003C4,
   0x81D74A_0003C5_81D74B_0003C6_81D74C_0003C7_81D74D_0003C8_81D74E_0003C9_81D74F_002202,
   0x81D750_0003B5_81D751_0003B8_81D752_0003BA_81D753_0003C6_81D754_0003C1_81D755_0003C0,
   0x81D756_000391_81D757_000392_81D758_000393_81D759_000394_81D75A_000395_81D75B_000396,
   0x81D75C_000397_81D75D_000398_81D75E_000399_81D75F_00039A_81D760_00039B_81D761_00039C,
   0x81D762_00039D_81D763_00039E_81D764_00039F_81D765_0003A0_81D766_0003A1_81D767_000398,
   0x81D768_0003A3_81D769_0003A4_81D76A_0003A5_81D76B_0003A6_81D76C_0003A7_81D76D_0003A8,
   0x81D76E_0003A9_81D76F_002207_81D770_0003B1_81D771_0003B2_81D772_0003B3_81D773_0003B4,
   0x81D774_0003B5_81D775_0003B6_81D776_0003B7_81D777_0003B8_81D778_0003B9_81D779_0003BA,
   0x81D77A_0003BB_81D77B_0003BC_81D77C_0003BD_81D77D_0003BE_81D77E_0003BF_81D77F_0003C0,
   0x81D780_0003C1_81D781_0003C2_81D782_0003C3_81D783_0003C4_81D784_0003C5_81D785_0003C6,
   0x81D786_0003C7_81D787_0003C8_81D788_0003C9_81D789_002202_81D78A_0003B5_81D78B_0003B8,
   0x81D78C_0003BA_81D78D_0003C6_81D78E_0003C1_81D78F_0003C0_81D790_000391_81D791_000392,
   0x81D792_000393_81D793_000394_81D794_000395_81D795_000396_81D796_000397_81D797_000398,
   0x81D798_000399_81D799_00039A_81D79A_00039B_81D79B_00039C_81D79C_00039D_81D79D_00039E,
   0x81D79E_00039F_81D79F_0003A0_81D7A0_0003A1_81D7A1_000398_81D7A2_0003A3_81D7A3_0003A4,
   0x81D7A4_0003A5_81D7A5_0003A6_81D7A6_0003A7_81D7A7_0003A8_81D7A8_0003A9_81D7A9_002207,
   0x81D7AA_0003B1_81D7AB_0003B2_81D7AC_0003B3_81D7AD_0003B4_81D7AE_0003B5_81D7AF_0003B6,
   0x81D7B0_0003B7_81D7B1_0003B8_81D7B2_0003B9_81D7B3_0003BA_81D7B4_0003BB_81D7B5_0003BC,
   0x81D7B6_0003BD_81D7B7_0003BE_81D7B8_0003BF_81D7B9_0003C0_81D7BA_0003C1_81D7BB_0003C2,
   0x81D7BC_0003C3_81D7BD_0003C4_81D7BE_0003C5_81D7BF_0003C6_81D7C0_0003C7_81D7C1_0003C8,
   0x81D7C2_0003C9_81D7C3_002202_81D7C4_0003B5_81D7C5_0003B8_81D7C6_0003BA_81D7C7_0003C6,
   0x81D7C8_0003C1_81D7C9_0003C0_81D7CA_0003DC_81D7CB_0003DD_81D7CE_000030_81D7CF_000031,
   0x81D7D0_000032_81D7D1_000033_81D7D2_000034_81D7D3_000035_81D7D4_000036_81D7D5_000037,
   0x81D7D6_000038_81D7D7_000039_81D7D8_000030_81D7D9_000031_81D7DA_000032_81D7DB_000033,
   0x81D7DC_000034_81D7DD_000035_81D7DE_000036_81D7DF_000037_81D7E0_000038_81D7E1_000039,
   0x81D7E2_000030_81D7E3_000031_81D7E4_000032_81D7E5_000033_81D7E6_000034_81D7E7_000035,
   0x81D7E8_000036_81D7E9_000037_81D7EA_000038_81D7EB_000039_81D7EC_000030_81D7ED_000031,
   0x81D7EE_000032_81D7EF_000033_81D7F0_000034_81D7F1_000035_81D7F2_000036_81D7F3_000037,
   0x81D7F4_000038_81D7F5_000039_81D7F6_000030_81D7F7_000031_81D7F8_000032_81D7F9_000033,
   0x81D7FA_000034_81D7FB_000035_81D7FC_000036_81D7FD_000037_81D7FE_000038_81D7FF_000039,
   0x81E030_000430_81E031_000431_81E032_000432_81E033_000433_81E034_000434_81E035_000435,
   0x81E036_000436_81E037_000437_81E038_000438_81E039_00043A_81E03A_00043B_81E03B_00043C,
   0x81E03C_00043E_81E03D_00043F_81E03E_000440_81E03F_000441_81E040_000442_81E041_000443,
   0x81E042_000444_81E043_000445_81E044_000446_81E045_000447_81E046_000448_81E047_00044B,
   0x81E048_00044D_81E049_00044E_81E04A_00A689_81E04B_0004D9_81E04C_000456_81E04D_000458,
   0x81E04E_0004E9_81E04F_0004AF_81E050_0004CF_81E051_000430_81E052_000431_81E053_000432,
   0x81E054_000433_81E055_000434_81E056_000435_81E057_000436_81E058_000437_81E059_000438,
   0x81E05A_00043A_81E05B_00043B_81E05C_00043E_81E05D_00043F_81E05E_000441_81E05F_000443,
   0x81E060_000444_81E061_000445_81E062_000446_81E063_000447_81E064_000448_81E065_00044A,
   0x81E066_00044B_81E067_000491_81E068_000456_81E069_000455_81E06A_00045F_81E06B_0004AB,
   0x81E06C_00A651_81E06D_0004B1_81EE00_000627_81EE01_000628_81EE02_00062C_81EE03_00062F,
   0x81EE05_000648_81EE06_000632_81EE07_00062D_81EE08_000637_81EE09_00064A_81EE0A_000643,
   0x81EE0B_000644_81EE0C_000645_81EE0D_000646_81EE0E_000633_81EE0F_000639_81EE10_000641,
   0x81EE11_000635_81EE12_000642_81EE13_000631_81EE14_000634_81EE15_00062A_81EE16_00062B,
   0x81EE17_00062E_81EE18_000630_81EE19_000636_81EE1A_000638_81EE1B_00063A_81EE1C_00066E,
   0x81EE1D_0006BA_81EE1E_0006A1_81EE1F_00066F_81EE21_000628_81EE22_00062C_81EE24_000647,
   0x81EE27_00062D_81EE29_00064A_81EE2A_000643_81EE2B_000644_81EE2C_000645_81EE2D_000646,
   0x81EE2E_000633_81EE2F_000639_81EE30_000641_81EE31_000635_81EE32_000642_81EE34_000634,
   0x81EE35_00062A_81EE36_00062B_81EE37_00062E_81EE39_000636_81EE3B_00063A_81EE42_00062C,
   0x81EE47_00062D_81EE49_00064A_81EE4B_000644_81EE4D_000646_81EE4E_000633_81EE4F_000639,
   0x81EE51_000635_81EE52_000642_81EE54_000634_81EE57_00062E_81EE59_000636_81EE5B_00063A,
   0x81EE5D_0006BA_81EE5F_00066F_81EE61_000628_81EE62_00062C_81EE64_000647_81EE67_00062D,
   0x81EE68_000637_81EE69_00064A_81EE6A_000643_81EE6C_000645_81EE6D_000646_81EE6E_000633,
   0x81EE6F_000639_81EE70_000641_81EE71_000635_81EE72_000642_81EE74_000634_81EE75_00062A,
   0x81EE76_00062B_81EE77_00062E_81EE79_000636_81EE7A_000638_81EE7B_00063A_81EE7C_00066E,
   0x81EE7E_0006A1_81EE80_000627_81EE81_000628_81EE82_00062C_81EE83_00062F_81EE84_000647,
   0x81EE85_000648_81EE86_000632_81EE87_00062D_81EE88_000637_81EE89_00064A_81EE8B_000644,
   0x81EE8C_000645_81EE8D_000646_81EE8E_000633_81EE8F_000639_81EE90_000641_81EE91_000635,
   0x81EE92_000642_81EE93_000631_81EE94_000634_81EE95_00062A_81EE96_00062B_81EE97_00062E,
   0x81EE98_000630_81EE99_000636_81EE9A_000638_81EE9B_00063A_81EEA1_000628_81EEA2_00062C,
   0x81EEA3_00062F_81EEA5_000648_81EEA6_000632_81EEA7_00062D_81EEA8_000637_81EEA9_00064A,
   0x81EEAB_000644_81EEAC_000645_81EEAD_000646_81EEAE_000633_81EEAF_000639_81EEB0_000641,
   0x81EEB1_000635_81EEB2_000642_81EEB3_000631_81EEB4_000634_81EEB5_00062A_81EEB6_00062B,
   0x81EEB7_00062E_81EEB8_000630_81EEB9_000636_81EEBA_000638_81EEBB_00063A_81F100_000030,
   0x00002E_81F101_000030_00002C_81F102_000031_00002C_81F103_000032_00002C_81F104_000033,
   0x00002C_81F105_000034_00002C_81F106_000035_00002C_81F107_000036_00002C_81F108_000037,
   0x00002C_81F109_000038_00002C_81F10A_000039_00002C_81F110_000028_000041_000029_81F111,
   0x000028_000042_000029_81F112_000028_000043_000029_81F113_000028_000044_000029_81F114,
   0x000028_000045_000029_81F115_000028_000046_000029_81F116_000028_000047_000029_81F117,
   0x000028_000048_000029_81F118_000028_000049_000029_81F119_000028_00004A_000029_81F11A,
   0x000028_00004B_000029_81F11B_000028_00004C_000029_81F11C_000028_00004D_000029_81F11D,
   0x000028_00004E_000029_81F11E_000028_00004F_000029_81F11F_000028_000050_000029_81F120,
   0x000028_000051_000029_81F121_000028_000052_000029_81F122_000028_000053_000029_81F123,
   0x000028_000054_000029_81F124_000028_000055_000029_81F125_000028_000056_000029_81F126,
   0x000028_000057_000029_81F127_000028_000058_000029_81F128_000028_000059_000029_81F129,
   0x000028_00005A_000029_81F12A_003014_000053_003015_81F12B_000043_81F12C_000052_81F12D,
   0x000043_000044_81F12E_000057_00005A_81F130_000041_81F131_000042_81F132_000043_81F133,
   0x000044_81F134_000045_81F135_000046_81F136_000047_81F137_000048_81F138_000049_81F139,
   0x00004A_81F13A_00004B_81F13B_00004C_81F13C_00004D_81F13D_00004E_81F13E_00004F_81F13F,
   0x000050_81F140_000051_81F141_000052_81F142_000053_81F143_000054_81F144_000055_81F145,
   0x000056_81F146_000057_81F147_000058_81F148_000059_81F149_00005A_81F14A_000048_000056,
   0x81F14B_00004D_000056_81F14C_000053_000044_81F14D_000053_000053_81F14E_000050_000050,
   0x000056_81F14F_000057_000043_81F16A_00004D_000043_81F16B_00004D_000044_81F16C_00004D,
   0x000052_81F190_000044_00004A_81F200_00307B_00304B_81F201_0030B3_0030B3_81F202_0030B5,
   0x81F210_00624B_81F211_005B57_81F212_0053CC_81F213_0030C6_003099_81F214_004E8C_81F215,
   0x00591A_81F216_0089E3_81F217_005929_81F218_004EA4_81F219_006620_81F21A_007121_81F21B,
   0x006599_81F21C_00524D_81F21D_005F8C_81F21E_00518D_81F21F_0065B0_81F220_00521D_81F221,
   0x007D42_81F222_00751F_81F223_008CA9_81F224_0058F0_81F225_005439_81F226_006F14_81F227,
   0x006295_81F228_006355_81F229_004E00_81F22A_004E09_81F22B_00904A_81F22C_005DE6_81F22D,
   0x004E2D_81F22E_0053F3_81F22F_006307_81F230_008D70_81F231_006253_81F232_007981_81F233,
   0x007A7A_81F234_005408_81F235_006E80_81F236_006709_81F237_006708_81F238_007533_81F239,
   0x005272_81F23A_0055B6_81F23B_00914D_81F240_003014_00672C_003015_81F241_003014_004E09,
   0x003015_81F242_003014_004E8C_003015_81F243_003014_005B89_003015_81F244_003014_0070B9,
   0x003015_81F245_003014_006253_003015_81F246_003014_0076D7_003015_81F247_003014_0052DD,
   0x003015_81F248_003014_006557_003015_81F250_005F97_81F251_0053EF_81FBF0_000030_81FBF1,
   0x000031_81FBF2_000032_81FBF3_000033_81FBF4_000034_81FBF5_000035_81FBF6_000036_81FBF7,
   0x000037_81FBF8_000038_81FBF9_000039_82F800_004E3D_82F801_004E38_82F802_004E41_82F803,
   0x020122_82F804_004F60_82F805_004FAE_82F806_004FBB_82F807_005002_82F808_00507A_82F809,
   0x005099_82F80A_0050E7_82F80B_0050CF_82F80C_00349E_82F80D_02063A_82F80E_00514D_82F80F,
   0x005154_82F810_005164_82F811_005177_82F812_02051C_82F813_0034B9_82F814_005167_82F815,
   0x00518D_82F816_02054B_82F817_005197_82F818_0051A4_82F819_004ECC_82F81A_0051AC_82F81B,
   0x0051B5_82F81C_0291DF_82F81D_0051F5_82F81E_005203_82F81F_0034DF_82F820_00523B_82F821,
   0x005246_82F822_005272_82F823_005277_82F824_003515_82F825_0052C7_82F826_0052C9_82F827,
   0x0052E4_82F828_0052FA_82F829_005305_82F82A_005306_82F82B_005317_82F82C_005349_82F82D,
   0x005351_82F82E_00535A_82F82F_005373_82F830_00537D_82F831_00537F_82F832_00537F_82F833,
   0x00537F_82F834_020A2C_82F835_007070_82F836_0053CA_82F837_0053DF_82F838_020B63_82F839,
   0x0053EB_82F83A_0053F1_82F83B_005406_82F83C_00549E_82F83D_005438_82F83E_005448_82F83F,
   0x005468_82F840_0054A2_82F841_0054F6_82F842_005510_82F843_005553_82F844_005563_82F845,
   0x005584_82F846_005584_82F847_005599_82F848_0055AB_82F849_0055B3_82F84A_0055C2_82F84B,
   0x005716_82F84C_005606_82F84D_005717_82F84E_005651_82F84F_005674_82F850_005207_82F851,
   0x0058EE_82F852_0057CE_82F853_0057F4_82F854_00580D_82F855_00578B_82F856_005832_82F857,
   0x005831_82F858_0058AC_82F859_0214E4_82F85A_0058F2_82F85B_0058F7_82F85C_005906_82F85D,
   0x00591A_82F85E_005922_82F85F_005962_82F860_0216A8_82F861_0216EA_82F862_0059EC_82F863,
   0x005A1B_82F864_005A27_82F865_0059D8_82F866_005A66_82F867_0036EE_82F868_0036FC_82F869,
   0x005B08_82F86A_005B3E_82F86B_005B3E_82F86C_0219C8_82F86D_005BC3_82F86E_005BD8_82F86F,
   0x005BE7_82F870_005BF3_82F871_021B18_82F872_005BFF_82F873_005C06_82F874_005F53_82F875,
   0x005C22_82F876_003781_82F877_005C60_82F878_005C6E_82F879_005CC0_82F87A_005C8D_82F87B,
   0x021DE4_82F87C_005D43_82F87D_021DE6_82F87E_005D6E_82F87F_005D6B_82F880_005D7C_82F881,
   0x005DE1_82F882_005DE2_82F883_00382F_82F884_005DFD_82F885_005E28_82F886_005E3D_82F887,
   0x005E69_82F888_003862_82F889_022183_82F88A_00387C_82F88B_005EB0_82F88C_005EB3_82F88D,
   0x005EB6_82F88E_005ECA_82F88F_02A392_82F890_005EFE_82F891_022331_82F892_022331_82F893,
   0x008201_82F894_005F22_82F895_005F22_82F896_0038C7_82F897_0232B8_82F898_0261DA_82F899,
   0x005F62_82F89A_005F6B_82F89B_0038E3_82F89C_005F9A_82F89D_005FCD_82F89E_005FD7_82F89F,
   0x005FF9_82F8A0_006081_82F8A1_00393A_82F8A2_00391C_82F8A3_006094_82F8A4_0226D4_82F8A5,
   0x0060C7_82F8A6_006148_82F8A7_00614C_82F8A8_00614E_82F8A9_00614C_82F8AA_00617A_82F8AB,
   0x00618E_82F8AC_0061B2_82F8AD_0061A4_82F8AE_0061AF_82F8AF_0061DE_82F8B0_0061F2_82F8B1,
   0x0061F6_82F8B2_006210_82F8B3_00621B_82F8B4_00625D_82F8B5_0062B1_82F8B6_0062D4_82F8B7,
   0x006350_82F8B8_022B0C_82F8B9_00633D_82F8BA_0062FC_82F8BB_006368_82F8BC_006383_82F8BD]

def expansionRowsI : List Nat :=
  [0x0063E4_82F8BE_022BF1_82F8BF_006422_82F8C0_0063C5_82F8C1_0063A9_82F8C2_003A2E_82F8C3,
   0x006469_82F8C4_00647E_82F8C5_00649D_82F8C6_006477_82F8C7_003A6C_82F8C8_00654F_82F8C9,
   0x00656C_82F8CA_02300A_82F8CB_0065E3_82F8CC_0066F8_82F8CD_006649_82F8CE_003B19_82F8CF,
   0x006691_82F8D0_003B08_82F8D1_003AE4_82F8D2_005192_82F8D3_005195_82F8D4_006700_82F8D5,
   0x00669C_82F8D6_0080AD_82F8D7_0043D9_82F8D8_006717_82F8D9_00671B_82F8DA_006721_82F8DB,
   0x00675E_82F8DC_006753_82F8DD_0233C3_82F8DE_003B49_82F8DF_0067FA_82F8E0_006785_82F8E1,
   0x006852_82F8E2_006885_82F8E3_02346D_82F8E4_00688E_82F8E5_00681F_82F8E6_006914_82F8E7,
   0x003B9D_82F8E8_006942_82F8E9_0069A3_82F8EA_0069EA_82F8EB_006AA8_82F8EC_0236A3_82F8ED,
   0x006ADB_82F8EE_003C18_82F8EF_006B21_82F8F0_0238A7_82F8F1_006B54_82F8F2_003C4E_82F8F3,
   0x006B72_82F8F4_006B9F_82F8F5_006BBA_82F8F6_006BBB_82F8F7_023A8D_82F8F8_021D0B_82F8F9,
   0x023AFA_82F8FA_006C4E_82F8FB_023CBC_82F8FC_006CBF_82F8FD_006CCD_82F8FE_006C67_82F8FF,
   0x006D16_82F900_006D3E_82F901_006D77_82F902_006D41_82F903_006D69_82F904_006D78_82F905,
   0x006D85_82F906_023D1E_82F907_006D34_82F908_006E2F_82F909_006E6E_82F90A_003D33_82F90B,
   0x006ECB_82F90C_006EC7_82F90D_023ED1_82F90E_006DF9_82F90F_006F6E_82F910_023F5E_82F911,
   0x023F8E_82F912_006FC6_82F913_007039_82F914_00701E_82F915_00701B_82F916_003D96_82F917,
   0x00704A_82F918_00707D_82F919_007077_82F91A_0070AD_82F91B_020525_82F91C_007145_82F91D,
   0x024263_82F91E_00719C_82F91F_0243AB_82F920_007228_82F921_007235_82F922_007250_82F923,
   0x024608_82F924_007280_82F925_007295_82F926_024735_82F927_024814_82F928_00737A_82F929,
   0x00738B_82F92A_003EAC_82F92B_0073A5_82F92C_003EB8_82F92D_003EB8_82F92E_007447_82F92F,
   0x00745C_82F930_007471_82F931_007485_82F932_0074CA_82F933_003F1B_82F934_007524_82F935,
   0x024C36_82F936_00753E_82F937_024C92_82F938_007570_82F939_02219F_82F93A_007610_82F93B,
   0x024FA1_82F93C_024FB8_82F93D_025044_82F93E_003FFC_82F93F_004008_82F940_0076F4_82F941,
   0x0250F3_82F942_0250F2_82F943_025119_82F944_025133_82F945_00771E_82F946_00771F_82F947,
   0x00771F_82F948_00774A_82F949_004039_82F94A_00778B_82F94B_004046_82F94C_004096_82F94D,
   0x02541D_82F94E_00784E_82F94F_00788C_82F950_0078CC_82F951_0040E3_82F952_025626_82F953,
   0x007956_82F954_02569A_82F955_0256C5_82F956_00798F_82F957_0079EB_82F958_00412F_82F959,
   0x007A40_82F95A_007A4A_82F95B_007A4F_82F95C_02597C_82F95D_025AA7_82F95E_025AA7_82F95F,
   0x007AEE_82F960_004202_82F961_025BAB_82F962_007BC6_82F963_007BC9_82F964_004227_82F965,
   0x025C80_82F966_007CD2_82F967_0042A0_82F968_007CE8_82F969_007CE3_82F96A_007D00_82F96B,
   0x025F86_82F96C_007D63_82F96D_004301_82F96E_007DC7_82F96F_007E02_82F970_007E45_82F971,
   0x004334_82F972_026228_82F973_026247_82F974_004359_82F975_0262D9_82F976_007F7A_82F977,
   0x02633E_82F978_007F95_82F979_007FFA_82F97A_008005_82F97B_0264DA_82F97C_026523_82F97D,
   0x008060_82F97E_0265A8_82F97F_008070_82F980_02335F_82F981_0043D5_82F982_0080B2_82F983,
   0x008103_82F984_00440B_82F985_00813E_82F986_005AB5_82F987_0267A7_82F988_0267B5_82F989,
   0x023393_82F98A_02339C_82F98B_008201_82F98C_008204_82F98D_008F9E_82F98E_00446B_82F98F,
   0x008291_82F990_00828B_82F991_00829D_82F992_0052B3_82F993_0082B1_82F994_0082B3_82F995,
   0x0082BD_82F996_0082E6_82F997_026B3C_82F998_0082E5_82F999_00831D_82F99A_008363_82F99B,
   0x0083AD_82F99C_008323_82F99D_0083BD_82F99E_0083E7_82F99F_008457_82F9A0_008353_82F9A1,
   0x0083CA_82F9A2_0083CC_82F9A3_0083DC_82F9A4_026C36_82F9A5_026D6B_82F9A6_026CD5_82F9A7,
   0x00452B_82F9A8_0084F1_82F9A9_0084F3_82F9AA_008516_82F9AB_0273CA_82F9AC_008564_82F9AD,
   0x026F2C_82F9AE_00455D_82F9AF_004561_82F9B0_026FB1_82F9B1_0270D2_82F9B2_00456B_82F9B3,
   0x008650_82F9B4_00865C_82F9B5_008667_82F9B6_008669_82F9B7_0086A9_82F9B8_008688_82F9B9,
   0x00870E_82F9BA_0086E2_82F9BB_008779_82F9BC_008728_82F9BD_00876B_82F9BE_008786_82F9BF,
   0x0045D7_82F9C0_0087E1_82F9C1_008801_82F9C2_0045F9_82F9C3_008860_82F9C4_008863_82F9C5,
   0x027667_82F9C6_0088D7_82F9C7_0088DE_82F9C8_004635_82F9C9_0088FA_82F9CA_0034BB_82F9CB,
   0x0278AE_82F9CC_027966_82F9CD_0046BE_82F9CE_0046C7_82F9CF_008AA0_82F9D0_008AED_82F9D1,
   0x008B8A_82F9D2_008C55_82F9D3_027CA8_82F9D4_008CAB_82F9D5_008CC1_82F9D6_008D1B_82F9D7,
   0x008D77_82F9D8_027F2F_82F9D9_020804_82F9DA_008DCB_82F9DB_008DBC_82F9DC_008DF0_82F9DD,
   0x0208DE_82F9DE_008ED4_82F9DF_008F38_82F9E0_0285D2_82F9E1_0285ED_82F9E2_009094_82F9E3,
   0x0090F1_82F9E4_009111_82F9E5_02872E_82F9E6_00911B_82F9E7_009238_82F9E8_0092D7_82F9E9,
   0x0092D8_82F9EA_00927C_82F9EB_0093F9_82F9EC_009415_82F9ED_028BFA_82F9EE_00958B_82F9EF,
   0x004995_82F9F0_0095B7_82F9F1_028D77_82F9F2_0049E6_82F9F3_0096C3_82F9F4_005DB2_82F9F5,
   0x009723_82F9F6_029145_82F9F7_02921A_82F9F8_004A6E_82F9F9_004A76_82F9FA_0097E0_82F9FB,
   0x02940A_82F9FC_004AB2_82F9FD_029496_82F9FE_00980B_82F9FF_00980B_82FA00_009829_82FA01,
   0x0295B6_82FA02_0098E2_82FA03_004B33_82FA04_009929_82FA05_0099A7_82FA06_0099C2_82FA07,
   0x0099FE_82FA08_004BCE_82FA09_029B30_82FA0A_009B12_82FA0B_009C40_82FA0C_009CFD_82FA0D,
   0x004CCE_82FA0E_004CED_82FA0F_009D67_82FA10_02A0CE_82FA11_004CF8_82FA12_02A105_82FA13,
   0x02A20E_82FA14_02A291_82FA15_009EBB_82FA16_004D56_82FA17_009EF9_82FA18_009EFE_82FA19,
   0x009F05_82FA1A_009F0F_82FA1B_009F16_82FA1C_009F3B_82FA1D_02A600_FFFFFF_FFFFFF_FFFFFF]

def expansionRows : List Nat :=
  expansionRowsA ++ expansionRowsB ++ expansionRowsC ++ expansionRowsD ++ expansionRowsE ++ expansionRowsF ++ expansionRowsG ++ expansionRowsH ++ expansionRowsI

/-- First, second and composite, in ascending order, part 1 of 2. -/
def compositeRowsA : List Nat :=
  [0x00003C_000338_00226E_00003D_000338_002260_00003E_000338_00226F_000041_000300_0000C0,
   0x000041_000301_0000C1_000041_000302_0000C2_000041_000303_0000C3_000041_000304_000100,
   0x000041_000306_000102_000041_000307_000226_000041_000308_0000C4_000041_000309_001EA2,
   0x000041_00030A_0000C5_000041_00030C_0001CD_000041_00030F_000200_000041_000311_000202,
   0x000041_000323_001EA0_000041_000325_001E00_000041_000328_000104_000042_000307_001E02,
   0x000042_000323_001E04_000042_000331_001E06_000043_000301_000106_000043_000302_000108,
   0x000043_000307_00010A_000043_00030C_00010C_000043_000327_0000C7_000044_000307_001E0A,
   0x000044_00030C_00010E_000044_000323_001E0C_000044_000327_001E10_000044_00032D_001E12,
   0x000044_000331_001E0E_000045_000300_0000C8_000045_000301_0000C9_000045_000302_0000CA,
   0x000045_000303_001EBC_000045_000304_000112_000045_000306_000114_000045_000307_000116,
   0x000045_000308_0000CB_000045_000309_001EBA_000045_00030C_00011A_000045_00030F_000204,
   0x000045_000311_000206_000045_000323_001EB8_000045_000327_000228_000045_000328_000118,
   0x000045_00032D_001E18_000045_000330_001E1A_000046_000307_001E1E_000047_000301_0001F4,
   0x000047_000302_00011C_000047_000304_001E20_000047_000306_00011E_000047_000307_000120,
   0x000047_00030C_0001E6_000047_000327_000122_000048_000302_000124_000048_000307_001E22,
   0x000048_000308_001E26_000048_00030C_00021E_000048_000323_001E24_000048_000327_001E28,
   0x000048_00032E_001E2A_000049_000300_0000CC_000049_000301_0000CD_000049_000302_0000CE,
   0x000049_000303_000128_000049_000304_00012A_000049_000306_00012C_000049_000307_000130,
   0x000049_000308_0000CF_000049_000309_001EC8_000049_00030C_0001CF_000049_00030F_000208,
   0x000049_000311_00020A_000049_000323_001ECA_000049_000328_00012E_000049_000330_001E2C,
   0x00004A_000302_000134_00004B_000301_001E30_00004B_00030C_0001E8_00004B_000323_001E32,
   0x00004B_000327_000136_00004B_000331_001E34_00004C_000301_000139_00004C_00030C_00013D,
   0x00004C_000323_001E36_00004C_000327_00013B_00004C_00032D_001E3C_00004C_000331_001E3A,
   0x00004D_000301_001E3E_00004D_000307_001E40_00004D_000323_001E42_00004E_000300_0001F8,
   0x00004E_000301_000143_00004E_000303_0000D1_00004E_000307_001E44_00004E_00030C_000147,
   0x00004E_000323_001E46_00004E_000327_000145_00004E_00032D_001E4A_00004E_000331_001E48,
   0x00004F_000300_0000D2_00004F_000301_0000D3_00004F_000302_0000D4_00004F_000303_0000D5,
   0x00004F_000304_00014C_00004F_000306_00014E_00004F_000307_00022E_00004F_000308_0000D6,
   0x00004F_000309_001ECE_00004F_00030B_000150_00004F_00030C_0001D1_00004F_00030F_00020C,
   0x00004F_000311_00020E_00004F_00031B_0001A0_00004F_000323_001ECC_00004F_000328_0001EA,
   0x000050_000301_001E54_000050_000307_001E56_000052_000301_000154_000052_000307_001E58,
   0x000052_00030C_000158_000052_00030F_000210_000052_000311_000212_000052_000323_001E5A,
   0x000052_000327_000156_000052_000331_001E5E_000053_000301_00015A_000053_000302_00015C,
   0x000053_000307_001E60_000053_00030C_000160_000053_000323_001E62_000053_000326_000218,
   0x000053_000327_00015E_000054_000307_001E6A_000054_00030C_000164_000054_000323_001E6C,
   0x000054_000326_00021A_000054_000327_000162_000054_00032D_001E70_000054_000331_001E6E,
   0x000055_000300_0000D9_000055_000301_0000DA_000055_000302_0000DB_000055_000303_000168,
   0x000055_000304_00016A_000055_000306_00016C_000055_000308_0000DC_000055_000309_001EE6,
   0x000055_00030A_00016E_000055_00030B_000170_000055_00030C_0001D3_000055_00030F_000214,
   0x000055_000311_000216_000055_00031B_0001AF_000055_000323_001EE4_000055_000324_001E72,
   0x000055_000328_000172_000055_00032D_001E76_000055_000330_001E74_000056_000303_001E7C,
   0x000056_000323_001E7E_000057_000300_001E80_000057_000301_001E82_000057_000302_000174,
   0x000057_000307_001E86_000057_000308_001E84_000057_000323_001E88_000058_000307_001E8A,
   0x000058_000308_001E8C_000059_000300_001EF2_000059_000301_0000DD_000059_000302_000176,
   0x000059_000303_001EF8_000059_000304_000232_000059_000307_001E8E_000059_000308_000178,
   0x000059_000309_001EF6_000059_000323_001EF4_00005A_000301_000179_00005A_000302_001E90,
   0x00005A_000307_00017B_00005A_00030C_00017D_00005A_000323_001E92_00005A_000331_001E94,
   0x000061_000300_0000E0_000061_000301_0000E1_000061_000302_0000E2_000061_000303_0000E3,
   0x000061_000304_000101_000061_000306_000103_000061_000307_000227_000061_000308_0000E4,
   0x000061_000309_001EA3_000061_00030A_0000E5_000061_00030C_0001CE_000061_00030F_000201,
   0x000061_000311_000203_000061_000323_001EA1_000061_000325_001E01_000061_000328_000105,
   0x000062_000307_001E03_000062_000323_001E05_000062_000331_001E07_000063_000301_000107,
   0x000063_000302_000109_000063_000307_00010B_000063_00030C_00010D_000063_000327_0000E7,
   0x000064_000307_001E0B_000064_00030C_00010F_000064_000323_001E0D_000064_000327_001E11,
   0x000064_00032D_001E13_000064_000331_001E0F_000065_000300_0000E8_000065_000301_0000E9,
   0x000065_000302_0000EA_000065_000303_001EBD_000065_000304_000113_000065_000306_000115,
   0x000065_000307_000117_000065_000308_0000EB_000065_000309_001EBB_000065_00030C_00011B,
   0x000065_00030F_000205_000065_000311_000207_000065_000323_001EB9_000065_000327_000229,
   0x000065_000328_000119_000065_00032D_001E19_000065_000330_001E1B_000066_000307_001E1F,
   0x000067_000301_0001F5_000067_000302_00011D_000067_000304_001E21_000067_000306_00011F,
   0x000067_000307_000121_000067_00030C_0001E7_000067_000327_000123_000068_000302_000125,
   0x000068_000307_001E23_000068_000308_001E27_000068_00030C_00021F_000068_000323_001E25,
   0x000068_000327_001E29_000068_00032E_001E2B_000068_000331_001E96_000069_000300_0000EC,
   0x000069_000301_0000ED_000069_000302_0000EE_000069_000303_000129_000069_000304_00012B,
   0x000069_000306_00012D_000069_000308_0000EF_000069_000309_001EC9_000069_00030C_0001D0,
   0x000069_00030F_000209_000069_000311_00020B_000069_000323_001ECB_000069_000328_00012F,
   0x000069_000330_001E2D_00006A_000302_000135_00006A_00030C_0001F0_00006B_000301_001E31,
   0x00006B_00030C_0001E9_00006B_000323_001E33_00006B_000327_000137_00006B_000331_001E35,
   0x00006C_000301_00013A_00006C_00030C_00013E_00006C_000323_001E37_00006C_000327_00013C,
   0x00006C_00032D_001E3D_00006C_000331_001E3B_00006D_000301_001E3F_00006D_000307_001E41,
   0x00006D_000323_001E43_00006E_000300_0001F9_00006E_000301_000144_00006E_000303_0000F1,
   0x00006E_000307_001E45_00006E_00030C_000148_00006E_000323_001E47_00006E_000327_000146,
   0x00006E_00032D_001E4B_00006E_000331_001E49_00006F_000300_0000F2_00006F_000301_0000F3,
   0x00006F_000302_0000F4_00006F_000303_0000F5_00006F_000304_00014D_00006F_000306_00014F,
   0x00006F_000307_00022F_00006F_000308_0000F6_00006F_000309_001ECF_00006F_00030B_000151,
   0x00006F_00030C_0001D2_00006F_00030F_00020D_00006F_000311_00020F_00006F_00031B_0001A1,
   0x00006F_000323_001ECD_00006F_000328_0001EB_000070_000301_001E55_000070_000307_001E57,
   0x000072_000301_000155_000072_000307_001E59_000072_00030C_000159_000072_00030F_000211,
   0x000072_000311_000213_000072_000323_001E5B_000072_000327_000157_000072_000331_001E5F,
   0x000073_000301_00015B_000073_000302_00015D_000073_000307_001E61_000073_00030C_000161,
   0x000073_000323_001E63_000073_000326_000219_000073_000327_00015F_000074_000307_001E6B,
   0x000074_000308_001E97_000074_00030C_000165_000074_000323_001E6D_000074_000326_00021B,
   0x000074_000327_000163_000074_00032D_001E71_000074_000331_001E6F_000075_000300_0000F9,
   0x000075_000301_0000FA_000075_000302_0000FB_000075_000303_000169_000075_000304_00016B,
   0x000075_000306_00016D_000075_000308_0000FC_000075_000309_001EE7_000075_00030A_00016F,
   0x000075_00030B_000171_000075_00030C_0001D4_000075_00030F_000215_000075_000311_000217,
   0x000075_00031B_0001B0_000075_000323_001EE5_000075_000324_001E73_000075_000328_000173,
   0x000075_00032D_001E77_000075_000330_001E75_000076_000303_001E7D_000076_000323_001E7F,
   0x000077_000300_001E81_000077_000301_001E83_000077_000302_000175_000077_000307_001E87,
   0x000077_000308_001E85_000077_00030A_001E98_000077_000323_001E89_000078_000307_001E8B,
   0x000078_000308_001E8D_000079_000300_001EF3_000079_000301_0000FD_000079_000302_000177,
   0x000079_000303_001EF9_000079_000304_000233_000079_000307_001E8F_000079_000308_0000FF,
   0x000079_000309_001EF7_000079_00030A_001E99_000079_000323_001EF5_00007A_000301_00017A,
   0x00007A_000302_001E91_00007A_000307_00017C_00007A_00030C_00017E_00007A_000323_001E93,
   0x00007A_000331_001E95_0000A8_000300_001FED_0000A8_000301_000385_0000A8_000342_001FC1,
   0x0000C2_000300_001EA6_0000C2_000301_001EA4_0000C2_000303_001EAA_0000C2_000309_001EA8,
   0x0000C4_000304_0001DE_0000C5_000301_0001FA_0000C6_000301_0001FC_0000C6_000304_0001E2,
   0x0000C7_000301_001E08_0000CA_000300_001EC0_0000CA_000301_001EBE_0000CA_000303_001EC4,
   0x0000CA_000309_001EC2_0000CF_000301_001E2E_0000D4_000300_001ED2_0000D4_000301_001ED0,
   0x0000D4_000303_001ED6_0000D4_000309_001ED4_0000D5_000301_001E4C_0000D5_000304_00022C,
   0x0000D5_000308_001E4E_0000D6_000304_00022A_0000D8_000301_0001FE_0000DC_000300_0001DB,
   0x0000DC_000301_0001D7_0000DC_000304_0001D5_0000DC_00030C_0001D9_0000E2_000300_001EA7,
   0x0000E2_000301_001EA5_0000E2_000303_001EAB_0000E2_000309_001EA9_0000E4_000304_0001DF,
   0x0000E5_000301_0001FB_0000E6_000301_0001FD_0000E6_000304_0001E3_0000E7_000301_001E09,
   0x0000EA_000300_001EC1_0000EA_000301_001EBF_0000EA_000303_001EC5_0000EA_000309_001EC3,
   0x0000EF_000301_001E2F_0000F4_000300_001ED3_0000F4_000301_001ED1_0000F4_000303_001ED7,
   0x0000F4_000309_001ED5_0000F5_000301_001E4D_0000F5_000304_00022D_0000F5_000308_001E4F,
   0x0000F6_000304_00022B_0000F8_000301_0001FF_0000FC_000300_0001DC_0000FC_000301_0001D8,
   0x0000FC_000304_0001D6_0000FC_00030C_0001DA_000102_000300_001EB0_000102_000301_001EAE,
   0x000102_000303_001EB4_000102_000309_001EB2_000103_000300_001EB1_000103_000301_001EAF,
   0x000103_000303_001EB5_000103_000309_001EB3_000112_000300_001E14_000112_000301_001E16,
   0x000113_000300_001E15_000113_000301_001E17_00014C_000300_001E50_00014C_000301_001E52,
   0x00014D_000300_001E51_00014D_000301_001E53_00015A_000307_001E64_00015B_000307_001E65,
   0x000160_000307_001E66_000161_000307_001E67_000168_000301_001E78_000169_000301_001E79,
   0x00016A_000308_001E7A_00016B_000308_001E7B_00017F_000307_001E9B_0001A0_000300_001EDC,
   0x0001A0_000301_001EDA_0001A0_000303_001EE0_0001A0_000309_001EDE_0001A0_000323_001EE2,
   0x0001A1_000300_001EDD_0001A1_000301_001EDB_0001A1_000303_001EE1_0001A1_000309_001EDF,
   0x0001A1_000323_001EE3_0001AF_000300_001EEA_0001AF_000301_001EE8_0001AF_000303_001EEE,
   0x0001AF_000309_001EEC_0001AF_000323_001EF0_0001B0_000300_001EEB_0001B0_000301_001EE9,
   0x0001B0_000303_001EEF_0001B0_000309_001EED_0001B0_000323_001EF1_0001B7_00030C_0001EE,
   0x0001EA_000304_0001EC_0001EB_000304_0001ED_000226_000304_0001E0_000227_000304_0001E1,
   0x000228_000306_001E1C_000229_000306_001E1D_00022E_000304_000230_00022F_000304_000231,
   0x000292_00030C_0001EF_000391_000300_001FBA_000391_000301_000386_000391_000304_001FB9,
   0x000391_000306_001FB8_000391_000313_001F08_000391_000314_001F09_000391_000345_001FBC,
   0x000395_000300_001FC8_000395_000301_000388_000395_000313_001F18_000395_000314_001F19,
   0x000397_000300_001FCA_000397_000301_000389_000397_000313_001F28_000397_000314_001F29,
   0x000397_000345_001FCC_000399_000300_001FDA_000399_000301_00038A_000399_000304_001FD9,
   0x000399_000306_001FD8_000399_000308_0003AA_000399_000313_001F38_000399_000314_001F39,
   0x00039F_000300_001FF8_00039F_000301_00038C_00039F_000313_001F48_00039F_000314_001F49,
   0x0003A1_000314_001FEC_0003A5_000300_001FEA_0003A5_000301_00038E_0003A5_000304_001FE9,
   0x0003A5_000306_001FE8_0003A5_000308_0003AB_0003A5_000314_001F59_0003A9_000300_001FFA,
   0x0003A9_000301_00038F_0003A9_000313_001F68_0003A9_000314_001F69_0003A9_000345_001FFC,
   0x0003AC_000345_001FB4_0003AE_000345_001FC4_0003B1_000300_001F70_0003B1_000301_0003AC,
   0x0003B1_000304_001FB1_0003B1_000306_001FB0_0003B1_000313_001F00_0003B1_000314_001F01,
   0x0003B1_000342_001FB6_0003B1_000345_001FB3_0003B5_000300_001F72_0003B5_000301_0003AD,
   0x0003B5_000313_001F10_0003B5_000314_001F11_0003B7_000300_001F74_0003B7_000301_0003AE,
   0x0003B7_000313_001F20_0003B7_000314_001F21_0003B7_000342_001FC6_0003B7_000345_001FC3,
   0x0003B9_000300_001F76_0003B9_000301_0003AF_0003B9_000304_001FD1_0003B9_000306_001FD0,
   0x0003B9_000308_0003CA_0003B9_000313_001F30_0003B9_000314_001F31_0003B9_000342_001FD6,
   0x0003BF_000300_001F78_0003BF_000301_0003CC_0003BF_000313_001F40_0003BF_000314_001F41,
   0x0003C1_000313_001FE4_0003C1_000314_001FE5_0003C5_000300_001F7A_0003C5_000301_0003CD,
   0x0003C5_000304_001FE1_0003C5_000306_001FE0_0003C5_000308_0003CB_0003C5_000313_001F50,
   0x0003C5_000314_001F51_0003C5_000342_001FE6_0003C9_000300_001F7C_0003C9_000301_0003CE,
   0x0003C9_000313_001F60_0003C9_000314_001F61_0003C9_000342_001FF6_0003C9_000345_001FF3,
   0x0003CA_000300_001FD2_0003CA_000301_000390_0003CA_000342_001FD7_0003CB_000300_001FE2,
   0x0003CB_000301_0003B0_0003CB_000342_001FE7_0003CE_000345_001FF4_0003D2_000301_0003D3,
   0x0003D2_000308_0003D4_000406_000308_000407_000410_000306_0004D0_000410_000308_0004D2,
   0x000413_000301_000403_000415_000300_000400_000415_000306_0004D6_000415_000308_000401,
   0x000416_000306_0004C1_000416_000308_0004DC_000417_000308_0004DE_000418_000300_00040D,
   0x000418_000304_0004E2_000418_000306_000419_000418_000308_0004E4_00041A_000301_00040C]

/-- First, second and composite, in ascending order, part 2 of 2. -/
def compositeRowsB : List Nat :=
  [0x00041E_000308_0004E6_000423_000304_0004EE_000423_000306_00040E_000423_000308_0004F0,
   0x000423_00030B_0004F2_000427_000308_0004F4_00042B_000308_0004F8_00042D_000308_0004EC,
   0x000430_000306_0004D1_000430_000308_0004D3_000433_000301_000453_000435_000300_000450,
   0x000435_000306_0004D7_000435_000308_000451_000436_000306_0004C2_000436_000308_0004DD,
   0x000437_000308_0004DF_000438_000300_00045D_000438_000304_0004E3_000438_000306_000439,
   0x000438_000308_0004E5_00043A_000301_00045C_00043E_000308_0004E7_000443_000304_0004EF,
   0x000443_000306_00045E_000443_000308_0004F1_000443_00030B_0004F3_000447_000308_0004F5,
   0x00044B_000308_0004F9_00044D_000308_0004ED_000456_000308_000457_000474_00030F_000476,
   0x000475_00030F_000477_0004D8_000308_0004DA_0004D9_000308_0004DB_0004E8_000308_0004EA,
   0x0004E9_000308_0004EB_000627_000653_000622_000627_000654_000623_000627_000655_000625,
   0x000648_000654_000624_00064A_000654_000626_0006C1_000654_0006C2_0006D2_000654_0006D3,
   0x0006D5_000654_0006C0_000928_00093C_000929_000930_00093C_000931_000933_00093C_000934,
   0x0009C7_0009BE_0009CB_0009C7_0009D7_0009CC_000B47_000B3E_000B4B_000B47_000B56_000B48,
   0x000B47_000B57_000B4C_000B92_000BD7_000B94_000BC6_000BBE_000BCA_000BC6_000BD7_000BCC,
   0x000BC7_000BBE_000BCB_000C46_000C56_000C48_000CBF_000CD5_000CC0_000CC6_000CC2_000CCA,
   0x000CC6_000CD5_000CC7_000CC6_000CD6_000CC8_000CCA_000CD5_000CCB_000D46_000D3E_000D4A,
   0x000D46_000D57_000D4C_000D47_000D3E_000D4B_000DD9_000DCA_000DDA_000DD9_000DCF_000DDC,
   0x000DD9_000DDF_000DDE_000DDC_000DCA_000DDD_001025_00102E_001026_001B05_001B35_001B06,
   0x001B07_001B35_001B08_001B09_001B35_001B0A_001B0B_001B35_001B0C_001B0D_001B35_001B0E,
   0x001B11_001B35_001B12_001B3A_001B35_001B3B_001B3C_001B35_001B3D_001B3E_001B35_001B40,
   0x001B3F_001B35_001B41_001B42_001B35_001B43_001E36_000304_001E38_001E37_000304_001E39,
   0x001E5A_000304_001E5C_001E5B_000304_001E5D_001E62_000307_001E68_001E63_000307_001E69,
   0x001EA0_000302_001EAC_001EA0_000306_001EB6_001EA1_000302_001EAD_001EA1_000306_001EB7,
   0x001EB8_000302_001EC6_001EB9_000302_001EC7_001ECC_000302_001ED8_001ECD_000302_001ED9,
   0x001F00_000300_001F02_001F00_000301_001F04_001F00_000342_001F06_001F00_000345_001F80,
   0x001F01_000300_001F03_001F01_000301_001F05_001F01_000342_001F07_001F01_000345_001F81,
   0x001F02_000345_001F82_001F03_000345_001F83_001F04_000345_001F84_001F05_000345_001F85,
   0x001F06_000345_001F86_001F07_000345_001F87_001F08_000300_001F0A_001F08_000301_001F0C,
   0x001F08_000342_001F0E_001F08_000345_001F88_001F09_000300_001F0B_001F09_000301_001F0D,
   0x001F09_000342_001F0F_001F09_000345_001F89_001F0A_000345_001F8A_001F0B_000345_001F8B,
   0x001F0C_000345_001F8C_001F0D_000345_001F8D_001F0E_000345_001F8E_001F0F_000345_001F8F,
   0x001F10_000300_001F12_001F10_000301_001F14_001F11_000300_001F13_001F11_000301_001F15,
   0x001F18_000300_001F1A_001F18_000301_001F1C_001F19_000300_001F1B_001F19_000301_001F1D,
   0x001F20_000300_001F22_001F20_000301_001F24_001F20_000342_001F26_001F20_000345_001F90,
   0x001F21_000300_001F23_001F21_000301_001F25_001F21_000342_001F27_001F21_000345_001F91,
   0x001F22_000345_001F92_001F23_000345_001F93_001F24_000345_001F94_001F25_000345_001F95,
   0x001F26_000345_001F96_001F27_000345_001F97_001F28_000300_001F2A_001F28_000301_001F2C,
   0x001F28_000342_001F2E_001F28_000345_001F98_001F29_000300_001F2B_001F29_000301_001F2D,
   0x001F29_000342_001F2F_001F29_000345_001F99_001F2A_000345_001F9A_001F2B_000345_001F9B,
   0x001F2C_000345_001F9C_001F2D_000345_001F9D_001F2E_000345_001F9E_001F2F_000345_001F9F,
   0x001F30_000300_001F32_001F30_000301_001F34_001F30_000342_001F36_001F31_000300_001F33,
   0x001F31_000301_001F35_001F31_000342_001F37_001F38_000300_001F3A_001F38_000301_001F3C,
   0x001F38_000342_001F3E_001F39_000300_001F3B_001F39_000301_001F3D_001F39_000342_001F3F,
   0x001F40_000300_001F42_001F40_000301_001F44_001F41_000300_001F43_001F41_000301_001F45,
   0x001F48_000300_001F4A_001F48_000301_001F4C_001F49_000300_001F4B_001F49_000301_001F4D,
   0x001F50_000300_001F52_001F50_000301_001F54_001F50_000342_001F56_001F51_000300_001F53,
   0x001F51_000301_001F55_001F51_000342_001F57_001F59_000300_001F5B_001F59_000301_001F5D,
   0x001F59_000342_001F5F_001F60_000300_001F62_001F60_000301_001F64_001F60_000342_001F66,
   0x001F60_000345_001FA0_001F61_000300_001F63_001F61_000301_001F65_001F61_000342_001F67,
   0x001F61_000345_001FA1_001F62_000345_001FA2_001F63_000345_001FA3_001F64_000345_001FA4,
   0x001F65_000345_001FA5_001F66_000345_001FA6_001F67_000345_001FA7_001F68_000300_001F6A,
   0x001F68_000301_001F6C_001F68_000342_001F6E_001F68_000345_001FA8_001F69_000300_001F6B,
   0x001F69_000301_001F6D_001F69_000342_001F6F_001F69_000345_001FA9_001F6A_000345_001FAA,
   0x001F6B_000345_001FAB_001F6C_000345_001FAC_001F6D_000345_001FAD_001F6E_000345_001FAE,
   0x001F6F_000345_001FAF_001F70_000345_001FB2_001F74_000345_001FC2_001F7C_000345_001FF2,
   0x001FB6_000345_001FB7_001FBF_000300_001FCD_001FBF_000301_001FCE_001FBF_000342_001FCF,
   0x001FC6_000345_001FC7_001FF6_000345_001FF7_001FFE_000300_001FDD_001FFE_000301_001FDE,
   0x001FFE_000342_001FDF_002190_000338_00219A_002192_000338_00219B_002194_000338_0021AE,
   0x0021D0_000338_0021CD_0021D2_000338_0021CF_0021D4_000338_0021CE_002203_000338_002204,
   0x002208_000338_002209_00220B_000338_00220C_002223_000338_002224_002225_000338_002226,
   0x00223C_000338_002241_002243_000338_002244_002245_000338_002247_002248_000338_002249,
   0x00224D_000338_00226D_002261_000338_002262_002264_000338_002270_002265_000338_002271,
   0x002272_000338_002274_002273_000338_002275_002276_000338_002278_002277_000338_002279,
   0x00227A_000338_002280_00227B_000338_002281_00227C_000338_0022E0_00227D_000338_0022E1,
   0x002282_000338_002284_002283_000338_002285_002286_000338_002288_002287_000338_002289,
   0x002291_000338_0022E2_002292_000338_0022E3_0022A2_000338_0022AC_0022A8_000338_0022AD,
   0x0022A9_000338_0022AE_0022AB_000338_0022AF_0022B2_000338_0022EA_0022B3_000338_0022EB,
   0x0022B4_000338_0022EC_0022B5_000338_0022ED_003046_003099_003094_00304B_003099_00304C,
   0x00304D_003099_00304E_00304F_003099_003050_003051_003099_003052_003053_003099_003054,
   0x003055_003099_003056_003057_003099_003058_003059_003099_00305A_00305B_003099_00305C,
   0x00305D_003099_00305E_00305F_003099_003060_003061_003099_003062_003064_003099_003065,
   0x003066_003099_003067_003068_003099_003069_00306F_003099_003070_00306F_00309A_003071,
   0x003072_003099_003073_003072_00309A_003074_003075_003099_003076_003075_00309A_003077,
   0x003078_003099_003079_003078_00309A_00307A_00307B_003099_00307C_00307B_00309A_00307D,
   0x00309D_003099_00309E_0030A6_003099_0030F4_0030AB_003099_0030AC_0030AD_003099_0030AE,
   0x0030AF_003099_0030B0_0030B1_003099_0030B2_0030B3_003099_0030B4_0030B5_003099_0030B6,
   0x0030B7_003099_0030B8_0030B9_003099_0030BA_0030BB_003099_0030BC_0030BD_003099_0030BE,
   0x0030BF_003099_0030C0_0030C1_003099_0030C2_0030C4_003099_0030C5_0030C6_003099_0030C7,
   0x0030C8_003099_0030C9_0030CF_003099_0030D0_0030CF_00309A_0030D1_0030D2_003099_0030D3,
   0x0030D2_00309A_0030D4_0030D5_003099_0030D6_0030D5_00309A_0030D7_0030D8_003099_0030D9,
   0x0030D8_00309A_0030DA_0030DB_003099_0030DC_0030DB_00309A_0030DD_0030EF_003099_0030F7,
   0x0030F0_003099_0030F8_0030F1_003099_0030F9_0030F2_003099_0030FA_0030FD_003099_0030FE,
   0x0105D2_000307_0105C9_0105DA_000307_0105E4_011099_0110BA_01109A_01109B_0110BA_01109C,
   0x0110A5_0110BA_0110AB_011131_011127_01112E_011132_011127_01112F_011347_01133E_01134B,
   0x011347_011357_01134C_011382_0113C9_011383_011384_0113BB_011385_01138B_0113C2_01138E,
   0x011390_0113C9_011391_0113C2_0113B8_0113C7_0113C2_0113C2_0113C5_0113C2_0113C9_0113C8,
   0x0114B9_0114B0_0114BC_0114B9_0114BA_0114BB_0114B9_0114BD_0114BE_0115B8_0115AF_0115BA,
   0x0115B9_0115AF_0115BB_011935_011930_011938_01611E_01611E_016121_01611E_01611F_016123,
   0x01611E_016120_016125_01611E_016129_016122_016121_01611F_016126_016121_016120_016128,
   0x016122_01611F_016127_016129_01611F_016124_016D63_016D67_016D69_016D67_016D67_016D68,
   0x016D69_016D67_016D6A_FFFFFF_FFFFFF_FFFFFF_FFFFFF_FFFFFF_FFFFFF_FFFFFF_FFFFFF_FFFFFF]

/-- First, second and composite, in ascending order. -/
def compositeRows : List Nat :=
  compositeRowsA ++ compositeRowsB

/-- First, last and class of each run of marks, in ascending order. -/
def combiningRows : List Nat :=
  [0x000300_000314_0000E6_000315_000315_0000E8_000316_000319_0000DC_00031A_00031A_0000E8,
   0x00031B_00031B_0000D8_00031C_000320_0000DC_000321_000322_0000CA_000323_000326_0000DC,
   0x000327_000328_0000CA_000329_000333_0000DC_000334_000338_000001_000339_00033C_0000DC,
   0x00033D_000344_0000E6_000345_000345_0000F0_000346_000346_0000E6_000347_000349_0000DC,
   0x00034A_00034C_0000E6_00034D_00034E_0000DC_000350_000352_0000E6_000353_000356_0000DC,
   0x000357_000357_0000E6_000358_000358_0000E8_000359_00035A_0000DC_00035B_00035B_0000E6,
   0x00035C_00035C_0000E9_00035D_00035E_0000EA_00035F_00035F_0000E9_000360_000361_0000EA,
   0x000362_000362_0000E9_000363_00036F_0000E6_000483_000487_0000E6_000591_000591_0000DC,
   0x000592_000595_0000E6_000596_000596_0000DC_000597_000599_0000E6_00059A_00059A_0000DE,
   0x00059B_00059B_0000DC_00059C_0005A1_0000E6_0005A2_0005A7_0000DC_0005A8_0005A9_0000E6,
   0x0005AA_0005AA_0000DC_0005AB_0005AC_0000E6_0005AD_0005AD_0000DE_0005AE_0005AE_0000E4,
   0x0005AF_0005AF_0000E6_0005B0_0005B0_00000A_0005B1_0005B1_00000B_0005B2_0005B2_00000C,
   0x0005B3_0005B3_00000D_0005B4_0005B4_00000E_0005B5_0005B5_00000F_0005B6_0005B6_000010,
   0x0005B7_0005B7_000011_0005B8_0005B8_000012_0005B9_0005BA_000013_0005BB_0005BB_000014,
   0x0005BC_0005BC_000015_0005BD_0005BD_000016_0005BF_0005BF_000017_0005C1_0005C1_000018,
   0x0005C2_0005C2_000019_0005C4_0005C4_0000E6_0005C5_0005C5_0000DC_0005C7_0005C7_000012,
   0x000610_000617_0000E6_000618_000618_00001E_000619_000619_00001F_00061A_00061A_000020,
   0x00064B_00064B_00001B_00064C_00064C_00001C_00064D_00064D_00001D_00064E_00064E_00001E,
   0x00064F_00064F_00001F_000650_000650_000020_000651_000651_000021_000652_000652_000022,
   0x000653_000654_0000E6_000655_000656_0000DC_000657_00065B_0000E6_00065C_00065C_0000DC,
   0x00065D_00065E_0000E6_00065F_00065F_0000DC_000670_000670_000023_0006D6_0006DC_0000E6,
   0x0006DF_0006E2_0000E6_0006E3_0006E3_0000DC_0006E4_0006E4_0000E6_0006E7_0006E8_0000E6,
   0x0006EA_0006EA_0000DC_0006EB_0006EC_0000E6_0006ED_0006ED_0000DC_000711_000711_000024,
   0x000730_000730_0000E6_000731_000731_0000DC_000732_000733_0000E6_000734_000734_0000DC,
   0x000735_000736_0000E6_000737_000739_0000DC_00073A_00073A_0000E6_00073B_00073C_0000DC,
   0x00073D_00073D_0000E6_00073E_00073E_0000DC_00073F_000741_0000E6_000742_000742_0000DC,
   0x000743_000743_0000E6_000744_000744_0000DC_000745_000745_0000E6_000746_000746_0000DC,
   0x000747_000747_0000E6_000748_000748_0000DC_000749_00074A_0000E6_0007EB_0007F1_0000E6,
   0x0007F2_0007F2_0000DC_0007F3_0007F3_0000E6_0007FD_0007FD_0000DC_000816_000819_0000E6,
   0x00081B_000823_0000E6_000825_000827_0000E6_000829_00082D_0000E6_000859_00085B_0000DC,
   0x000897_000898_0000E6_000899_00089B_0000DC_00089C_00089F_0000E6_0008CA_0008CE_0000E6,
   0x0008CF_0008D3_0000DC_0008D4_0008E1_0000E6_0008E3_0008E3_0000DC_0008E4_0008E5_0000E6,
   0x0008E6_0008E6_0000DC_0008E7_0008E8_0000E6_0008E9_0008E9_0000DC_0008EA_0008EC_0000E6,
   0x0008ED_0008EF_0000DC_0008F0_0008F0_00001B_0008F1_0008F1_00001C_0008F2_0008F2_00001D,
   0x0008F3_0008F5_0000E6_0008F6_0008F6_0000DC_0008F7_0008F8_0000E6_0008F9_0008FA_0000DC,
   0x0008FB_0008FF_0000E6_00093C_00093C_000007_00094D_00094D_000009_000951_000951_0000E6,
   0x000952_000952_0000DC_000953_000954_0000E6_0009BC_0009BC_000007_0009CD_0009CD_000009,
   0x0009FE_0009FE_0000E6_000A3C_000A3C_000007_000A4D_000A4D_000009_000ABC_000ABC_000007,
   0x000ACD_000ACD_000009_000B3C_000B3C_000007_000B4D_000B4D_000009_000BCD_000BCD_000009,
   0x000C3C_000C3C_000007_000C4D_000C4D_000009_000C55_000C55_000054_000C56_000C56_00005B,
   0x000CBC_000CBC_000007_000CCD_000CCD_000009_000D3B_000D3C_000009_000D4D_000D4D_000009,
   0x000DCA_000DCA_000009_000E38_000E39_000067_000E3A_000E3A_000009_000E48_000E4B_00006B,
   0x000EB8_000EB9_000076_000EBA_000EBA_000009_000EC8_000ECB_00007A_000F18_000F19_0000DC,
   0x000F35_000F35_0000DC_000F37_000F37_0000DC_000F39_000F39_0000D8_000F71_000F71_000081,
   0x000F72_000F72_000082_000F74_000F74_000084_000F7A_000F7D_000082_000F80_000F80_000082,
   0x000F82_000F83_0000E6_000F84_000F84_000009_000F86_000F87_0000E6_000FC6_000FC6_0000DC,
   0x001037_001037_000007_001039_00103A_000009_00108D_00108D_0000DC_00135D_00135F_0000E6,
   0x001714_001715_000009_001734_001734_000009_0017D2_0017D2_000009_0017DD_0017DD_0000E6,
   0x0018A9_0018A9_0000E4_001939_001939_0000DE_00193A_00193A_0000E6_00193B_00193B_0000DC,
   0x001A17_001A17_0000E6_001A18_001A18_0000DC_001A60_001A60_000009_001A75_001A7C_0000E6,
   0x001A7F_001A7F_0000DC_001AB0_001AB4_0000E6_001AB5_001ABA_0000DC_001ABB_001ABC_0000E6,
   0x001ABD_001ABD_0000DC_001ABF_001AC0_0000DC_001AC1_001AC2_0000E6_001AC3_001AC4_0000DC,
   0x001AC5_001AC9_0000E6_001ACA_001ACA_0000DC_001ACB_001ACE_0000E6_001B34_001B34_000007,
   0x001B44_001B44_000009_001B6B_001B6B_0000E6_001B6C_001B6C_0000DC_001B6D_001B73_0000E6,
   0x001BAA_001BAB_000009_001BE6_001BE6_000007_001BF2_001BF3_000009_001C37_001C37_000007,
   0x001CD0_001CD2_0000E6_001CD4_001CD4_000001_001CD5_001CD9_0000DC_001CDA_001CDB_0000E6,
   0x001CDC_001CDF_0000DC_001CE0_001CE0_0000E6_001CE2_001CE8_000001_001CED_001CED_0000DC,
   0x001CF4_001CF4_0000E6_001CF8_001CF9_0000E6_001DC0_001DC1_0000E6_001DC2_001DC2_0000DC,
   0x001DC3_001DC9_0000E6_001DCA_001DCA_0000DC_001DCB_001DCC_0000E6_001DCD_001DCD_0000EA,
   0x001DCE_001DCE_0000D6_001DCF_001DCF_0000DC_001DD0_001DD0_0000CA_001DD1_001DF5_0000E6,
   0x001DF6_001DF6_0000E8_001DF7_001DF8_0000E4_001DF9_001DF9_0000DC_001DFA_001DFA_0000DA,
   0x001DFB_001DFB_0000E6_001DFC_001DFC_0000E9_001DFD_001DFD_0000DC_001DFE_001DFE_0000E6,
   0x001DFF_001DFF_0000DC_0020D0_0020D1_0000E6_0020D2_0020D3_000001_0020D4_0020D7_0000E6,
   0x0020D8_0020DA_000001_0020DB_0020DC_0000E6_0020E1_0020E1_0000E6_0020E5_0020E6_000001,
   0x0020E7_0020E7_0000E6_0020E8_0020E8_0000DC_0020E9_0020E9_0000E6_0020EA_0020EB_000001,
   0x0020EC_0020EF_0000DC_0020F0_0020F0_0000E6_002CEF_002CF1_0000E6_002D7F_002D7F_000009,
   0x002DE0_002DFF_0000E6_00302A_00302A_0000DA_00302B_00302B_0000E4_00302C_00302C_0000E8,
   0x00302D_00302D_0000DE_00302E_00302F_0000E0_003099_00309A_000008_00A66F_00A66F_0000E6,
   0x00A674_00A67D_0000E6_00A69E_00A69F_0000E6_00A6F0_00A6F1_0000E6_00A806_00A806_000009,
   0x00A82C_00A82C_000009_00A8C4_00A8C4_000009_00A8E0_00A8F1_0000E6_00A92B_00A92D_0000DC,
   0x00A953_00A953_000009_00A9B3_00A9B3_000007_00A9C0_00A9C0_000009_00AAB0_00AAB0_0000E6,
   0x00AAB2_00AAB3_0000E6_00AAB4_00AAB4_0000DC_00AAB7_00AAB8_0000E6_00AABE_00AABF_0000E6,
   0x00AAC1_00AAC1_0000E6_00AAF6_00AAF6_000009_00ABED_00ABED_000009_00FB1E_00FB1E_00001A,
   0x00FE20_00FE26_0000E6_00FE27_00FE2D_0000DC_00FE2E_00FE2F_0000E6_0101FD_0101FD_0000DC,
   0x0102E0_0102E0_0000DC_010376_01037A_0000E6_010A0D_010A0D_0000DC_010A0F_010A0F_0000E6,
   0x010A38_010A38_0000E6_010A39_010A39_000001_010A3A_010A3A_0000DC_010A3F_010A3F_000009,
   0x010AE5_010AE5_0000E6_010AE6_010AE6_0000DC_010D24_010D27_0000E6_010D69_010D6D_0000E6,
   0x010EAB_010EAC_0000E6_010EFD_010EFF_0000DC_010F46_010F47_0000DC_010F48_010F4A_0000E6,
   0x010F4B_010F4B_0000DC_010F4C_010F4C_0000E6_010F4D_010F50_0000DC_010F82_010F82_0000E6,
   0x010F83_010F83_0000DC_010F84_010F84_0000E6_010F85_010F85_0000DC_011046_011046_000009,
   0x011070_011070_000009_01107F_01107F_000009_0110B9_0110B9_000009_0110BA_0110BA_000007,
   0x011100_011102_0000E6_011133_011134_000009_011173_011173_000007_0111C0_0111C0_000009,
   0x0111CA_0111CA_000007_011235_011235_000009_011236_011236_000007_0112E9_0112E9_000007,
   0x0112EA_0112EA_000009_01133B_01133C_000007_01134D_01134D_000009_011366_01136C_0000E6,
   0x011370_011374_0000E6_0113CE_0113D0_000009_011442_011442_000009_011446_011446_000007,
   0x01145E_01145E_0000E6_0114C2_0114C2_000009_0114C3_0114C3_000007_0115BF_0115BF_000009,
   0x0115C0_0115C0_000007_01163F_01163F_000009_0116B6_0116B6_000009_0116B7_0116B7_000007,
   0x01172B_01172B_000009_011839_011839_000009_01183A_01183A_000007_01193D_01193E_000009,
   0x011943_011943_000007_0119E0_0119E0_000009_011A34_011A34_000009_011A47_011A47_000009,
   0x011A99_011A99_000009_011C3F_011C3F_000009_011D42_011D42_000007_011D44_011D45_000009,
   0x011D97_011D97_000009_011F41_011F42_000009_01612F_01612F_000009_016AF0_016AF4_000001,
   0x016B30_016B36_0000E6_016FF0_016FF1_000006_01BC9E_01BC9E_000001_01D165_01D166_0000D8,
   0x01D167_01D169_000001_01D16D_01D16D_0000E2_01D16E_01D172_0000D8_01D17B_01D182_0000DC,
   0x01D185_01D189_0000E6_01D18A_01D18B_0000DC_01D1AA_01D1AD_0000E6_01D242_01D244_0000E6,
   0x01E000_01E006_0000E6_01E008_01E018_0000E6_01E01B_01E021_0000E6_01E023_01E024_0000E6,
   0x01E026_01E02A_0000E6_01E08F_01E08F_0000E6_01E130_01E136_0000E6_01E2AE_01E2AE_0000E6,
   0x01E2EC_01E2EF_0000E6_01E4EC_01E4ED_0000E8_01E4EE_01E4EE_0000DC_01E4EF_01E4EF_0000E6,
   0x01E5EE_01E5EE_0000E6_01E5EF_01E5EF_0000DC_01E8D0_01E8D6_0000DC_01E944_01E949_0000E6,
   0x01E94A_01E94A_000007_FFFFFF_FFFFFF_FFFFFF_FFFFFF_FFFFFF_FFFFFF_FFFFFF_FFFFFF_FFFFFF]

def expansions : CodeMap := .ofRows expansionRows

/-- First, second and composite of every primary composite, flattened. -/
def composites : Array Nat := (cells compositeRows).toArray

/-- First, last and class of every run of marks, flattened. -/
def combiningRuns : Array Nat := (cells combiningRows).toArray

end Retrieval.Text
