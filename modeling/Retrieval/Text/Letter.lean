import Retrieval.Text.CodeTable

/-!
# Letters

`isLetter` : the general categories Lu, Ll, Lt, Lm and Lo.
-/

namespace Retrieval.Text

def letterRows : List Nat :=
  [0x000041_00005B_000061_00007B_0000AA_0000AB_0000B5_0000B6_0000BA_0000BB_0000C0_0000D7,
   0x0000D8_0000F7_0000F8_0002C2_0002C6_0002D2_0002E0_0002E5_0002EC_0002ED_0002EE_0002EF,
   0x000370_000375_000376_000378_00037A_00037E_00037F_000380_000386_000387_000388_00038B,
   0x00038C_00038D_00038E_0003A2_0003A3_0003F6_0003F7_000482_00048A_000530_000531_000557,
   0x000559_00055A_000560_000589_0005D0_0005EB_0005EF_0005F3_000620_00064B_00066E_000670,
   0x000671_0006D4_0006D5_0006D6_0006E5_0006E7_0006EE_0006F0_0006FA_0006FD_0006FF_000700,
   0x000710_000711_000712_000730_00074D_0007A6_0007B1_0007B2_0007CA_0007EB_0007F4_0007F6,
   0x0007FA_0007FB_000800_000816_00081A_00081B_000824_000825_000828_000829_000840_000859,
   0x000860_00086B_000870_000888_000889_00088F_0008A0_0008CA_000904_00093A_00093D_00093E,
   0x000950_000951_000958_000962_000971_000981_000985_00098D_00098F_000991_000993_0009A9,
   0x0009AA_0009B1_0009B2_0009B3_0009B6_0009BA_0009BD_0009BE_0009CE_0009CF_0009DC_0009DE,
   0x0009DF_0009E2_0009F0_0009F2_0009FC_0009FD_000A05_000A0B_000A0F_000A11_000A13_000A29,
   0x000A2A_000A31_000A32_000A34_000A35_000A37_000A38_000A3A_000A59_000A5D_000A5E_000A5F,
   0x000A72_000A75_000A85_000A8E_000A8F_000A92_000A93_000AA9_000AAA_000AB1_000AB2_000AB4,
   0x000AB5_000ABA_000ABD_000ABE_000AD0_000AD1_000AE0_000AE2_000AF9_000AFA_000B05_000B0D,
   0x000B0F_000B11_000B13_000B29_000B2A_000B31_000B32_000B34_000B35_000B3A_000B3D_000B3E,
   0x000B5C_000B5E_000B5F_000B62_000B71_000B72_000B83_000B84_000B85_000B8B_000B8E_000B91,
   0x000B92_000B96_000B99_000B9B_000B9C_000B9D_000B9E_000BA0_000BA3_000BA5_000BA8_000BAB,
   0x000BAE_000BBA_000BD0_000BD1_000C05_000C0D_000C0E_000C11_000C12_000C29_000C2A_000C3A,
   0x000C3D_000C3E_000C58_000C5B_000C5D_000C5E_000C60_000C62_000C80_000C81_000C85_000C8D,
   0x000C8E_000C91_000C92_000CA9_000CAA_000CB4_000CB5_000CBA_000CBD_000CBE_000CDD_000CDF,
   0x000CE0_000CE2_000CF1_000CF3_000D04_000D0D_000D0E_000D11_000D12_000D3B_000D3D_000D3E,
   0x000D4E_000D4F_000D54_000D57_000D5F_000D62_000D7A_000D80_000D85_000D97_000D9A_000DB2,
   0x000DB3_000DBC_000DBD_000DBE_000DC0_000DC7_000E01_000E31_000E32_000E34_000E40_000E47,
   0x000E81_000E83_000E84_000E85_000E86_000E8B_000E8C_000EA4_000EA5_000EA6_000EA7_000EB1,
   0x000EB2_000EB4_000EBD_000EBE_000EC0_000EC5_000EC6_000EC7_000EDC_000EE0_000F00_000F01,
   0x000F40_000F48_000F49_000F6D_000F88_000F8D_001000_00102B_00103F_001040_001050_001056,
   0x00105A_00105E_001061_001062_001065_001067_00106E_001071_001075_001082_00108E_00108F,
   0x0010A0_0010C6_0010C7_0010C8_0010CD_0010CE_0010D0_0010FB_0010FC_001249_00124A_00124E,
   0x001250_001257_001258_001259_00125A_00125E_001260_001289_00128A_00128E_001290_0012B1,
   0x0012B2_0012B6_0012B8_0012BF_0012C0_0012C1_0012C2_0012C6_0012C8_0012D7_0012D8_001311,
   0x001312_001316_001318_00135B_001380_001390_0013A0_0013F6_0013F8_0013FE_001401_00166D,
   0x00166F_001680_001681_00169B_0016A0_0016EB_0016F1_0016F9_001700_001712_00171F_001732,
   0x001740_001752_001760_00176D_00176E_001771_001780_0017B4_0017D7_0017D8_0017DC_0017DD,
   0x001820_001879_001880_001885_001887_0018A9_0018AA_0018AB_0018B0_0018F6_001900_00191F,
   0x001950_00196E_001970_001975_001980_0019AC_0019B0_0019CA_001A00_001A17_001A20_001A55,
   0x001AA7_001AA8_001B05_001B34_001B45_001B4D_001B83_001BA1_001BAE_001BB0_001BBA_001BE6,
   0x001C00_001C24_001C4D_001C50_001C5A_001C7E_001C80_001C8B_001C90_001CBB_001CBD_001CC0,
   0x001CE9_001CED_001CEE_001CF4_001CF5_001CF7_001CFA_001CFB_001D00_001DC0_001E00_001F16,
   0x001F18_001F1E_001F20_001F46_001F48_001F4E_001F50_001F58_001F59_001F5A_001F5B_001F5C,
   0x001F5D_001F5E_001F5F_001F7E_001F80_001FB5_001FB6_001FBD_001FBE_001FBF_001FC2_001FC5,
   0x001FC6_001FCD_001FD0_001FD4_001FD6_001FDC_001FE0_001FED_001FF2_001FF5_001FF6_001FFD,
   0x002071_002072_00207F_002080_002090_00209D_002102_002103_002107_002108_00210A_002114,
   0x002115_002116_002119_00211E_002124_002125_002126_002127_002128_002129_00212A_00212E,
   0x00212F_00213A_00213C_002140_002145_00214A_00214E_00214F_002183_002185_002C00_002CE5,
   0x002CEB_002CEF_002CF2_002CF4_002D00_002D26_002D27_002D28_002D2D_002D2E_002D30_002D68,
   0x002D6F_002D70_002D80_002D97_002DA0_002DA7_002DA8_002DAF_002DB0_002DB7_002DB8_002DBF,
   0x002DC0_002DC7_002DC8_002DCF_002DD0_002DD7_002DD8_002DDF_002E2F_002E30_003005_003007,
   0x003031_003036_00303B_00303D_003041_003097_00309D_0030A0_0030A1_0030FB_0030FC_003100,
   0x003105_003130_003131_00318F_0031A0_0031C0_0031F0_003200_003400_004DC0_004E00_00A48D,
   0x00A4D0_00A4FE_00A500_00A60D_00A610_00A620_00A62A_00A62C_00A640_00A66F_00A67F_00A69E,
   0x00A6A0_00A6E6_00A717_00A720_00A722_00A789_00A78B_00A7CE_00A7D0_00A7D2_00A7D3_00A7D4,
   0x00A7D5_00A7DD_00A7F2_00A802_00A803_00A806_00A807_00A80B_00A80C_00A823_00A840_00A874,
   0x00A882_00A8B4_00A8F2_00A8F8_00A8FB_00A8FC_00A8FD_00A8FF_00A90A_00A926_00A930_00A947,
   0x00A960_00A97D_00A984_00A9B3_00A9CF_00A9D0_00A9E0_00A9E5_00A9E6_00A9F0_00A9FA_00A9FF,
   0x00AA00_00AA29_00AA40_00AA43_00AA44_00AA4C_00AA60_00AA77_00AA7A_00AA7B_00AA7E_00AAB0,
   0x00AAB1_00AAB2_00AAB5_00AAB7_00AAB9_00AABE_00AAC0_00AAC1_00AAC2_00AAC3_00AADB_00AADE,
   0x00AAE0_00AAEB_00AAF2_00AAF5_00AB01_00AB07_00AB09_00AB0F_00AB11_00AB17_00AB20_00AB27,
   0x00AB28_00AB2F_00AB30_00AB5B_00AB5C_00AB6A_00AB70_00ABE3_00AC00_00D7A4_00D7B0_00D7C7,
   0x00D7CB_00D7FC_00F900_00FA6E_00FA70_00FADA_00FB00_00FB07_00FB13_00FB18_00FB1D_00FB1E,
   0x00FB1F_00FB29_00FB2A_00FB37_00FB38_00FB3D_00FB3E_00FB3F_00FB40_00FB42_00FB43_00FB45,
   0x00FB46_00FBB2_00FBD3_00FD3E_00FD50_00FD90_00FD92_00FDC8_00FDF0_00FDFC_00FE70_00FE75,
   0x00FE76_00FEFD_00FF21_00FF3B_00FF41_00FF5B_00FF66_00FFBF_00FFC2_00FFC8_00FFCA_00FFD0,
   0x00FFD2_00FFD8_00FFDA_00FFDD_010000_01000C_01000D_010027_010028_01003B_01003C_01003E,
   0x01003F_01004E_010050_01005E_010080_0100FB_010280_01029D_0102A0_0102D1_010300_010320,
   0x01032D_010341_010342_01034A_010350_010376_010380_01039E_0103A0_0103C4_0103C8_0103D0,
   0x010400_01049E_0104B0_0104D4_0104D8_0104FC_010500_010528_010530_010564_010570_01057B,
   0x01057C_01058B_01058C_010593_010594_010596_010597_0105A2_0105A3_0105B2_0105B3_0105BA,
   0x0105BB_0105BD_0105C0_0105F4_010600_010737_010740_010756_010760_010768_010780_010786,
   0x010787_0107B1_0107B2_0107BB_010800_010806_010808_010809_01080A_010836_010837_010839,
   0x01083C_01083D_01083F_010856_010860_010877_010880_01089F_0108E0_0108F3_0108F4_0108F6,
   0x010900_010916_010920_01093A_010980_0109B8_0109BE_0109C0_010A00_010A01_010A10_010A14,
   0x010A15_010A18_010A19_010A36_010A60_010A7D_010A80_010A9D_010AC0_010AC8_010AC9_010AE5,
   0x010B00_010B36_010B40_010B56_010B60_010B73_010B80_010B92_010C00_010C49_010C80_010CB3,
   0x010CC0_010CF3_010D00_010D24_010D4A_010D66_010D6F_010D86_010E80_010EAA_010EB0_010EB2,
   0x010EC2_010EC5_010F00_010F1D_010F27_010F28_010F30_010F46_010F70_010F82_010FB0_010FC5,
   0x010FE0_010FF7_011003_011038_011071_011073_011075_011076_011083_0110B0_0110D0_0110E9,
   0x011103_011127_011144_011145_011147_011148_011150_011173_011176_011177_011183_0111B3,
   0x0111C1_0111C5_0111DA_0111DB_0111DC_0111DD_011200_011212_011213_01122C_01123F_011241,
   0x011280_011287_011288_011289_01128A_01128E_01128F_01129E_01129F_0112A9_0112B0_0112DF,
   0x011305_01130D_01130F_011311_011313_011329_01132A_011331_011332_011334_011335_01133A,
   0x01133D_01133E_011350_011351_01135D_011362_011380_01138A_01138B_01138C_01138E_01138F,
   0x011390_0113B6_0113B7_0113B8_0113D1_0113D2_0113D3_0113D4_011400_011435_011447_01144B,
   0x01145F_011462_011480_0114B0_0114C4_0114C6_0114C7_0114C8_011580_0115AF_0115D8_0115DC,
   0x011600_011630_011644_011645_011680_0116AB_0116B8_0116B9_011700_01171B_011740_011747,
   0x011800_01182C_0118A0_0118E0_0118FF_011907_011909_01190A_01190C_011914_011915_011917,
   0x011918_011930_01193F_011940_011941_011942_0119A0_0119A8_0119AA_0119D1_0119E1_0119E2,
   0x0119E3_0119E4_011A00_011A01_011A0B_011A33_011A3A_011A3B_011A50_011A51_011A5C_011A8A,
   0x011A9D_011A9E_011AB0_011AF9_011BC0_011BE1_011C00_011C09_011C0A_011C2F_011C40_011C41,
   0x011C72_011C90_011D00_011D07_011D08_011D0A_011D0B_011D31_011D46_011D47_011D60_011D66,
   0x011D67_011D69_011D6A_011D8A_011D98_011D99_011EE0_011EF3_011F02_011F03_011F04_011F11,
   0x011F12_011F34_011FB0_011FB1_012000_01239A_012480_012544_012F90_012FF1_013000_013430,
   0x013441_013447_013460_0143FB_014400_014647_016100_01611E_016800_016A39_016A40_016A5F,
   0x016A70_016ABF_016AD0_016AEE_016B00_016B30_016B40_016B44_016B63_016B78_016B7D_016B90,
   0x016D40_016D6D_016E40_016E80_016F00_016F4B_016F50_016F51_016F93_016FA0_016FE0_016FE2,
   0x016FE3_016FE4_017000_0187F8_018800_018CD6_018CFF_018D09_01AFF0_01AFF4_01AFF5_01AFFC,
   0x01AFFD_01AFFF_01B000_01B123_01B132_01B133_01B150_01B153_01B155_01B156_01B164_01B168,
   0x01B170_01B2FC_01BC00_01BC6B_01BC70_01BC7D_01BC80_01BC89_01BC90_01BC9A_01D400_01D455,
   0x01D456_01D49D_01D49E_01D4A0_01D4A2_01D4A3_01D4A5_01D4A7_01D4A9_01D4AD_01D4AE_01D4BA,
   0x01D4BB_01D4BC_01D4BD_01D4C4_01D4C5_01D506_01D507_01D50B_01D50D_01D515_01D516_01D51D,
   0x01D51E_01D53A_01D53B_01D53F_01D540_01D545_01D546_01D547_01D54A_01D551_01D552_01D6A6,
   0x01D6A8_01D6C1_01D6C2_01D6DB_01D6DC_01D6FB_01D6FC_01D715_01D716_01D735_01D736_01D74F,
   0x01D750_01D76F_01D770_01D789_01D78A_01D7A9_01D7AA_01D7C3_01D7C4_01D7CC_01DF00_01DF1F,
   0x01DF25_01DF2B_01E030_01E06E_01E100_01E12D_01E137_01E13E_01E14E_01E14F_01E290_01E2AE,
   0x01E2C0_01E2EC_01E4D0_01E4EC_01E5D0_01E5EE_01E5F0_01E5F1_01E7E0_01E7E7_01E7E8_01E7EC,
   0x01E7ED_01E7EF_01E7F0_01E7FF_01E800_01E8C5_01E900_01E944_01E94B_01E94C_01EE00_01EE04,
   0x01EE05_01EE20_01EE21_01EE23_01EE24_01EE25_01EE27_01EE28_01EE29_01EE33_01EE34_01EE38,
   0x01EE39_01EE3A_01EE3B_01EE3C_01EE42_01EE43_01EE47_01EE48_01EE49_01EE4A_01EE4B_01EE4C,
   0x01EE4D_01EE50_01EE51_01EE53_01EE54_01EE55_01EE57_01EE58_01EE59_01EE5A_01EE5B_01EE5C,
   0x01EE5D_01EE5E_01EE5F_01EE60_01EE61_01EE63_01EE64_01EE65_01EE67_01EE6B_01EE6C_01EE73,
   0x01EE74_01EE78_01EE79_01EE7D_01EE7E_01EE7F_01EE80_01EE8A_01EE8B_01EE9C_01EEA1_01EEA4,
   0x01EEA5_01EEAA_01EEAB_01EEBC_020000_02A6E0_02A700_02B73A_02B740_02B81E_02B820_02CEA2,
   0x02CEB0_02EBE1_02EBF0_02EE5E_02F800_02FA1E_030000_03134B_031350_0323B0_FFFFFF_FFFFFF]

def letters : CodeSet := .ofRows letterRows

def isLetter (c : Char) : Bool := letters.contains c

end Retrieval.Text
